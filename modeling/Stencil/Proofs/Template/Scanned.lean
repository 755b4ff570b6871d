import Stencil.Proofs.Template.Closing
import Stencil.Proofs.Text.Find
import Stencil.Proofs.Text.Utf8
import Stencil.Template.Program

/-!
# Stencil.Proofs.Template.Scanned

What a scan does, said of the octets of a template: `Scanned` has one rule for
the text after the last marker and one for a marker together with the text
before it. `scanned_segments` says that the segments of every template come from
these rules, so whatever the rules keep is so for every scan.

The octets of a template are cut where a delimiter begins or ends, so texts and
contents of markers are whole characters (`scanned_segmentsFrom`).
-/

namespace Stencil.Scan

open Text

/-! ## the rules -/

/-- No marker opens in octets, or the first one that opens is never closed. -/
def Unmarked (d : Delimiters) (bs : List UInt8) : Prop :=
  ¬ utf8 d.opening <:+: bs ∨
    ∃ before rest, bs = before ++ utf8 d.opening ++ rest ∧
      FirstAt (utf8 d.opening) bs before.length ∧
      closedAfter? (utf8 d.closing) (.outside (utf8 d.closing)) rest = none

/-- A text as a segment, unless it is empty. -/
def textSegment (t : String) : List Segment := if t = "" then [] else [.text t]

/-- The segments of the octets that stand at an offset of a template. -/
inductive Scanned (d : Delimiters) : Nat → List UInt8 → List Segment → Prop where
  /-- The rest is text. -/
  | rest (start : Nat) (t : String) : Unmarked d (utf8 t) →
    Scanned d start (utf8 t) (textSegment t)
  /-- The first opening delimiter stands after the text `t`, and the marker that
  it opens is closed after `inner`. -/
  | marker (start : Nat) (t : String) {inner tail : List UInt8} {segments : List Segment} :
    FirstAt (utf8 d.opening) (utf8 t ++ utf8 d.opening) (utf8 t).length →
    IsUtf8 inner →
    closedAfter? (utf8 d.closing) (.outside (utf8 d.closing))
      (inner ++ utf8 d.closing ++ tail) = some (inner.length + (utf8 d.closing).length) →
    Scanned d (markerAt d (start + (utf8 t).length) inner).stop tail segments →
    Scanned d start (utf8 t ++ utf8 d.opening ++ (inner ++ utf8 d.closing ++ tail))
      (textSegment t ++ .marker (markerAt d (start + (utf8 t).length) inner) :: segments)

/-! ## pieces -/

/-- The opening delimiter has an octet. -/
theorem utf8_opening_ne (d : Delimiters) : utf8 d.opening ≠ [] :=
  fun h => d.opening_ne (utf8_eq_nil_iff.1 h)

/-- So has the closing one. -/
theorem utf8_closing_ne (d : Delimiters) : utf8 d.closing ≠ [] :=
  fun h => d.closing_ne (utf8_eq_nil_iff.1 h)

/-- Where no marker opens, or the first one never closes, all is one text. -/
theorem pieces_of_unmarked {d : Delimiters} {bs : List UInt8} (h : Unmarked d bs) :
    pieces (utf8 d.opening) (utf8 d.closing) bs = textPiece bs := by
  rw [pieces]
  rcases h with h | ⟨before, rest, heq, hfirst, hclosed⟩
  · have hcut : cutAt? (utf8 d.opening) bs = none := cutAt?_eq_none_iff.2 h
    split
    · rfl
    · next before rest hsome => rw [hcut] at hsome; cases hsome
  · have hcut : cutAt? (utf8 d.opening) bs = some (before, rest) :=
      cutAt?_eq_some_iff.2 ⟨heq, hfirst⟩
    split
    · rfl
    · next before' rest' hsome =>
      rw [hcut] at hsome
      obtain ⟨rfl, rfl⟩ : before = before' ∧ rest = rest' := by simpa using hsome
      split
      · rfl
      · next n hn => rw [hclosed] at hn; cases hn

/-- A text up to the first opening delimiter is followed by the marker that this opens. -/
theorem pieces_of_marker {opening closing before inner tail : List UInt8}
    (hfirst : FirstAt opening (before ++ opening) before.length)
    (hclosed : closedAfter? closing (.outside closing) (inner ++ closing ++ tail) =
      some (inner.length + closing.length)) :
    pieces opening closing (before ++ opening ++ (inner ++ closing ++ tail)) =
      textPiece before ++ .marker inner :: pieces opening closing tail := by
  have hcut : cutAt? opening (before ++ opening ++ (inner ++ closing ++ tail)) =
      some (before, inner ++ closing ++ tail) :=
    cutAt?_eq_some_iff.2 ⟨rfl, firstAt_append_iff.2 hfirst⟩
  rw [pieces]
  split
  · next hnone => rw [hcut] at hnone; cases hnone
  · next before' rest' hsome =>
    rw [hcut] at hsome
    obtain ⟨rfl, rfl⟩ : before = before' ∧ inner ++ closing ++ tail = rest' := by simpa using hsome
    split
    · next hnone => rw [hclosed] at hnone; cases hnone
    · next n hn =>
      rw [hclosed] at hn
      obtain rfl := Option.some.inj hn
      have htake : (inner ++ closing ++ tail).take inner.length = inner := by simp
      have hdrop : (inner ++ closing ++ tail).drop (inner.length + closing.length) = tail := by
        rw [← List.length_append, List.drop_left]
      rw [Nat.add_sub_cancel, htake, hdrop]

/-! ## segments -/

/-- The octets of a text are read as the text. -/
theorem textOf_utf8 (t : String) : textOf (utf8 t) = t := by
  rw [textOf, ofUtf8?_utf8]
  rfl

/-- The text that octets are. -/
theorem utf8_textOf {bs : List UInt8} (h : IsUtf8 bs) : utf8 (textOf bs) = bs := by
  obtain ⟨t, ht, hbs⟩ := h.exists_text
  rw [textOf, ht]
  exact hbs

/-- A marker begins at its opening delimiter. -/
theorem start_markerAt (d : Delimiters) (start : Nat) (inner : List UInt8) :
    (markerAt d start inner).start = start := rfl

/-- It stops behind its closing one. -/
theorem stop_markerAt (d : Delimiters) (start : Nat) (inner : List UInt8) :
    (markerAt d start inner).stop = start + (utf8 d.opening).length + inner.length +
      (utf8 d.closing).length := rfl

/-- Segments go on after a piece of text where the text ends. -/
theorem segmentsFrom_textPiece (d : Delimiters) (start : Nat) (t : String) (rest : List Piece) :
    segmentsFrom d start (textPiece (utf8 t) ++ rest) =
      textSegment t ++ segmentsFrom d (start + (utf8 t).length) rest := by
  by_cases ht : t = ""
  · subst ht
    rfl
  · have hne : utf8 t ≠ [] := fun h => ht (utf8_eq_nil_iff.1 h)
    have hpiece : textPiece (utf8 t) = [.text (utf8 t)] := by simp [textPiece, hne]
    rw [hpiece, textSegment, if_neg ht, List.singleton_append, segmentsFrom, textOf_utf8]
    rfl

/-- The segments of octets whose first marker stands after the text `t`. -/
theorem segmentsFrom_of_marker (d : Delimiters) (start : Nat) (t : String)
    {inner tail : List UInt8}
    (hfirst : FirstAt (utf8 d.opening) (utf8 t ++ utf8 d.opening) (utf8 t).length)
    (hclosed : closedAfter? (utf8 d.closing) (.outside (utf8 d.closing))
      (inner ++ utf8 d.closing ++ tail) = some (inner.length + (utf8 d.closing).length)) :
    segmentsFrom d start (pieces (utf8 d.opening) (utf8 d.closing)
        (utf8 t ++ utf8 d.opening ++ (inner ++ utf8 d.closing ++ tail))) =
      textSegment t ++ .marker (markerAt d (start + (utf8 t).length) inner) ::
        segmentsFrom d (markerAt d (start + (utf8 t).length) inner).stop
          (pieces (utf8 d.opening) (utf8 d.closing) tail) := by
  rw [pieces_of_marker hfirst hclosed, segmentsFrom_textPiece, segmentsFrom]

/-- Such a text is one segment, if it is not empty. -/
theorem segmentsFrom_of_unmarked {d : Delimiters} (start : Nat) {t : String}
    (h : Unmarked d (utf8 t)) :
    segmentsFrom d start (pieces (utf8 d.opening) (utf8 d.closing) (utf8 t)) = textSegment t := by
  rw [pieces_of_unmarked h, ← List.append_nil (textPiece _), segmentsFrom_textPiece,
    segmentsFrom, List.append_nil]

/-- The segments of octets that are whole characters. -/
theorem scanned_segmentsFrom (d : Delimiters) (start : Nat) {bs : List UInt8} (h : IsUtf8 bs) :
    Scanned d start bs (segmentsFrom d start (pieces (utf8 d.opening) (utf8 d.closing) bs)) := by
  have hrest : ∀ {start bs}, IsUtf8 bs → Unmarked d bs →
      Scanned d start bs
        (segmentsFrom d start (pieces (utf8 d.opening) (utf8 d.closing) bs)) := by
    intro start bs h hbs
    rw [← utf8_textOf h] at hbs ⊢
    rw [segmentsFrom_of_unmarked start hbs]
    exact .rest start _ hbs
  -- the induction is that of `pieces`: what is left after a marker is shorter
  induction bs using pieces.induct (utf8 d.opening) (utf8 d.closing) generalizing start with
  | case1 bs hcut =>
    exact hrest h (.inl (cutAt?_eq_none_iff.1 hcut))
  | case2 bs before rest hcut hclosed =>
    obtain ⟨heq, hfirst⟩ := cutAt?_eq_some_iff.1 hcut
    exact hrest h (.inr ⟨before, rest, heq, hfirst, hclosed⟩)
  | case3 bs before rest hcut n hclosed ih =>
    obtain ⟨rfl, hfirst⟩ := cutAt?_eq_some_iff.1 hcut
    obtain ⟨inner, tail, rfl, rfl, -, -⟩ := exists_of_closedAfter? (utf8_closing_ne d) hclosed
    obtain ⟨hbefore, hmore⟩ := h.cut d.opening_ne
    obtain ⟨hinner, htail⟩ := hmore.cut d.closing_ne
    have hdrop : (inner ++ utf8 d.closing ++ tail).drop
        (inner.length + (utf8 d.closing).length) = tail := by
      rw [← List.length_append, List.drop_left]
    rw [hdrop] at ih
    have hfirst := firstAt_append_iff.1 hfirst
    rw [← utf8_textOf hbefore] at hfirst ⊢
    rw [segmentsFrom_of_marker d start _ hfirst hclosed]
    exact .marker start _ hfirst hinner hclosed (ih _ htail)

/-! ## markers -/

/-- The markers among segments. -/
def markers (segments : List Segment) : List Marker :=
  segments.filterMap fun
    | .text _ => none
    | .marker m => some m

/-- A text is no marker. -/
@[simp] theorem markers_textSegment (t : String) : markers (textSegment t) = [] := by
  unfold textSegment
  split <;> rfl

/-- A marker comes before those behind it. -/
@[simp] theorem markers_cons (t : String) (m : Marker) (segments : List Segment) :
    markers (textSegment t ++ .marker m :: segments) = m :: markers segments := by
  rw [markers, List.filterMap_append, ← markers, markers_textSegment]
  rfl

/-- Where a marker stands in the octets that are scanned, and where it is closed. -/
theorem Scanned.exists_of_mem_markers {d : Delimiters} {start : Nat} {bs : List UInt8}
    {segments : List Segment} (h : Scanned d start bs segments) {m : Marker}
    (hm : m ∈ markers segments) :
    ∃ before inner tail, bs = before ++ utf8 d.opening ++ (inner ++ utf8 d.closing ++ tail) ∧
      m = markerAt d (start + before.length) inner ∧
      closedAfter? (utf8 d.closing) (.outside (utf8 d.closing))
        (inner ++ utf8 d.closing ++ tail) = some (inner.length + (utf8 d.closing).length) := by
  induction h with
  | rest start t hrest => simp at hm
  | @marker start t inner tail segments hfirst hinner hclosed hsegments ih =>
    rw [markers_cons] at hm
    rcases List.mem_cons.1 hm with rfl | hm
    · exact ⟨utf8 t, inner, tail, rfl, rfl, hclosed⟩
    · obtain ⟨before, inner', tail', rfl, rfl, hclosed'⟩ := ih hm
      refine ⟨utf8 t ++ utf8 d.opening ++ inner ++ utf8 d.closing ++ before, inner', tail',
        by simp, ?_, hclosed'⟩
      congr 1
      simp only [stop_markerAt, List.length_append]
      omega

/-! ## templates -/

/-- Characters without a mark of byte order at the front. -/
def afterMark : List Char → List Char
  | '\uFEFF' :: cs => cs
  | cs => cs

/-- The octets that are scanned stand at the end of a template, and they are those
of its characters without the mark. -/
theorem body_spec (source : String) :
    (body source).2 = utf8Chars (afterMark source.toList) ∧
      ∃ front, utf8 source = front ++ (body source).2 ∧ front.length = (body source).1 := by
  have hmark : byteOrderMark = utf8Chars ['\uFEFF'] := by decide
  unfold body
  split
  · next rest hrest =>
    have hsource : utf8 source = byteOrderMark ++ rest := afterPrefix?_eq_some_iff.1 hrest
    refine ⟨?_, byteOrderMark, hsource, rfl⟩
    rw [hmark] at hsource
    obtain ⟨cs, hcs, rfl⟩ := utf8Chars_cut_after hsource
    rw [hcs]
    rfl
  · next hnone =>
    have hsource : ¬ byteOrderMark <+: utf8 source := afterPrefix?_eq_none_iff.1 hnone
    refine ⟨?_, [], rfl, rfl⟩
    unfold afterMark
    split
    · next cs hcs =>
      refine absurd ⟨utf8Chars cs, ?_⟩ hsource
      rw [hmark, ← utf8Chars_append, utf8, hcs]
      rfl
    · rfl

/-- The segments of a template come from the rules. -/
theorem scanned_segments (d : Delimiters) (source : String) :
    Scanned d (body source).1 (body source).2 (segments d source) :=
  scanned_segmentsFrom d _ ⟨_, (body_spec source).1⟩

/-! ## programs -/

/-- The node of a marker is a marker. -/
theorem isMarker_ofMarker (m : Marker) : (Node.ofMarker m).isMarker = true := by
  unfold Node.ofMarker
  split <;> rfl

/-- There is a marker among the nodes just if there is one among the segments. -/
theorem any_isMarker (segments : List Segment) :
    (segments.map Node.ofSegment).any Node.isMarker = !(markers segments).isEmpty := by
  induction segments with
  | nil => rfl
  | cons segment segments ih =>
    rw [List.map_cons, List.any_cons, ih]
    cases segment with
    | text t => rfl
    | marker m => simp [Node.ofSegment, isMarker_ofMarker, markers]

/-- A template is a program if a marker was found in it. -/
theorem build?_eq (d : Delimiters) (source : String) :
    Program.build? d source =
      if markers (segments d source) = [] then none
      else some ((segments d source).map Node.ofSegment) := by
  simp only [Program.build?, any_isMarker]
  by_cases h : markers (segments d source) = []
  · simp [h]
  · simp [h]

end Stencil.Scan
