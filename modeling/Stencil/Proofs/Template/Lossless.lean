import Mathlib.Data.List.Chain
import Stencil.Include
import Stencil.Proofs.Template.Scanned

/-!
# Stencil.Proofs.Template.Lossless

Scanning loses nothing and skips nothing. `Lossless` says so of the segments of
a template:

1. their octets, those of a marker taken from the template, make up the template
   without a mark of byte order at its front;
2. markers take some room each and stand one after the other;
3. no text is empty and none follows another one, so texts are as long as they
   can be;
4. the first opening delimiter after a marker is the one of the next marker, and
   if there is no next one then it is never closed.

Each of these holds of all that the rules of `Scanned` make. A template without
markers is recognised by its octets, and it is its own output
(`segments_lossless`).
-/

namespace Stencil

open Rendering (Outcome)
open Text

/-- The octets of a segment: those of its text, or those that its marker takes
in the octets of a template. -/
def Segment.octets (source : List UInt8) : Segment → List UInt8
  | .text t => utf8 t
  | .marker m => (source.drop m.start).take (m.stop - m.start)

namespace Scan

/-- A segment can be followed by another one: a text only by a marker, whose
opening delimiter is the first one from the front of the text. -/
def Adjacent (d : Delimiters) : Segment → Segment → Prop
  | .text _, .text _ => False
  | .text t, .marker _ => FirstAt (utf8 d.opening) (utf8 t ++ utf8 d.opening) (utf8 t).length
  | .marker _, _ => True

/-- Segments hold all of the octets `bs` at the end of the octets `source`. -/
structure Lossless (d : Delimiters) (source bs : List UInt8) (segments : List Segment) : Prop where
  joined : segments.flatMap (Segment.octets source) = bs
  room : ∀ m ∈ markers segments, m.start < m.stop ∧ m.stop ≤ source.length
  ordered : (markers segments).Pairwise fun m n => m.stop ≤ n.start
  nonempty : .text "" ∉ segments
  adjacent : segments.IsChain (Adjacent d)
  final : ∀ t, segments.getLast? = some (.text t) → Unmarked d (utf8 t)

/-! ## what the rules keep -/

/-- The segment of a text has its octets. -/
theorem octets_textSegment (source : List UInt8) (t : String) :
    (textSegment t).flatMap (Segment.octets source) = utf8 t := by
  unfold textSegment
  split
  · next ht =>
    subst ht
    rfl
  · simp [Segment.octets]

/-- A marker takes its delimiters and what stands between them. -/
theorem octets_marker (d : Delimiters) (t : String) (inner tail : List UInt8)
    {front : List UInt8} {start : Nat} (hfront : front.length = start) :
    Segment.octets (front ++ (utf8 t ++ utf8 d.opening ++ (inner ++ utf8 d.closing ++ tail)))
        (.marker (markerAt d (start + (utf8 t).length) inner)) =
      utf8 d.opening ++ inner ++ utf8 d.closing := by
  have hlen : (markerAt d (start + (utf8 t).length) inner).stop - (start + (utf8 t).length) =
      (utf8 d.opening ++ inner ++ utf8 d.closing).length := by
    simp only [stop_markerAt, List.length_append]
    omega
  have hsplit : utf8 t ++ utf8 d.opening ++ (inner ++ utf8 d.closing ++ tail) =
      utf8 t ++ ((utf8 d.opening ++ inner ++ utf8 d.closing) ++ tail) := by
    simp only [List.append_assoc]
  rw [Segment.octets, start_markerAt, hlen, ← hfront, List.drop_length_add_append, hsplit,
    List.drop_left, List.take_left]

/-- No segment is an empty text. -/
theorem nonempty_textSegment (t : String) : .text "" ∉ textSegment t := by
  unfold textSegment
  split
  · simp
  · next ht => simpa using Ne.symm ht

/-- A text is followed by a marker, and no marker opens in it. -/
theorem adjacent_textSegment {d : Delimiters} {t : String} {m : Marker} {segments : List Segment}
    (hfirst : FirstAt (utf8 d.opening) (utf8 t ++ utf8 d.opening) (utf8 t).length)
    (h : (.marker m :: segments).IsChain (Adjacent d)) :
    (textSegment t ++ .marker m :: segments).IsChain (Adjacent d) := by
  unfold textSegment
  split
  · exact h
  · exact List.isChain_cons_cons.2 ⟨hfirst, h⟩

section
variable {d : Delimiters} {start : Nat} {bs : List UInt8} {segments : List Segment}

/-- The octets of the segments are those that were scanned. -/
theorem Scanned.joined (h : Scanned d start bs segments) (front : List UInt8)
    (hfront : front.length = start) :
    segments.flatMap (Segment.octets (front ++ bs)) = bs := by
  induction h generalizing front with
  | rest start t hrest => exact octets_textSegment _ t
  | @marker start t inner tail segments hfirst hinner hclosed hsegments ih =>
    have htail := ih (front ++ utf8 t ++ utf8 d.opening ++ inner ++ utf8 d.closing) (by
      simp only [stop_markerAt, List.length_append]
      omega)
    rw [List.flatMap_append, List.flatMap_cons, octets_textSegment,
      octets_marker d t inner tail hfront]
    simp only [List.append_assoc] at htail ⊢
    rw [htail]

/-- Each marker stands within what was scanned. -/
theorem Scanned.room (h : Scanned d start bs segments) {m : Marker} (hm : m ∈ markers segments) :
    start ≤ m.start ∧ m.start < m.stop ∧ m.stop ≤ start + bs.length := by
  obtain ⟨before, inner, tail, rfl, rfl, -⟩ := h.exists_of_mem_markers hm
  have hopening := List.length_pos_iff.2 (utf8_opening_ne d)
  simp only [start_markerAt, stop_markerAt, List.length_append]
  omega

/-- Each marker ends before the next one begins. -/
theorem Scanned.ordered (h : Scanned d start bs segments) :
    (markers segments).Pairwise fun m n => m.stop ≤ n.start := by
  induction h with
  | rest start t hrest => simp
  | marker start t hfirst hinner hclosed hsegments ih =>
    rw [markers_cons]
    exact List.pairwise_cons.2 ⟨fun n hn => (hsegments.room hn).1, ih⟩

/-- No text is empty. -/
theorem Scanned.nonempty (h : Scanned d start bs segments) : .text "" ∉ segments := by
  induction h with
  | rest start t hrest => exact nonempty_textSegment t
  | marker start t hfirst hinner hclosed hsegments ih =>
    simpa [nonempty_textSegment] using ih

/-- No two texts follow each other. -/
theorem Scanned.adjacent (h : Scanned d start bs segments) : segments.IsChain (Adjacent d) := by
  induction h with
  | rest start t hrest =>
    unfold textSegment
    split <;> simp
  | marker start t hfirst hinner hclosed hsegments ih =>
    exact adjacent_textSegment hfirst (List.isChain_cons.2 ⟨fun _ _ => trivial, ih⟩)

/-- In a text at the end no marker opens that is closed. -/
theorem Scanned.final (h : Scanned d start bs segments) {t : String}
    (ht : segments.getLast? = some (.text t)) : Unmarked d (utf8 t) := by
  induction h with
  | rest start s hrest =>
    unfold textSegment at ht
    split at ht
    · cases ht
    · obtain rfl : s = t := by simpa using ht
      exact hrest
  | @marker start s inner tail segments hfirst hinner hclosed hsegments ih =>
    refine ih ?_
    rw [List.getLast?_append, List.getLast?_cons] at ht
    cases hlast : segments.getLast? with
    | none => simp [hlast] at ht
    | some segment => simpa [hlast] using ht

/-- Where the rules make no marker, there is none. -/
theorem Scanned.unmarked (h : Scanned d start bs segments) (hnone : markers segments = []) :
    Unmarked d bs := by
  cases h with
  | rest _ t hrest => exact hrest
  | marker _ t hfirst hinner hclosed hsegments =>
    rw [markers_cons] at hnone
    cases hnone

end

/-! ## templates -/

/-- Nothing of a template is lost. -/
theorem lossless_segments (d : Delimiters) (source : String) :
    Lossless d (utf8 source) (utf8Chars (afterMark source.toList)) (segments d source) := by
  have h := scanned_segments d source
  obtain ⟨hbody, front, hsource, hfront⟩ := body_spec source
  rw [← hbody]
  refine ⟨?_, fun m hm => ?_, h.ordered, h.nonempty, h.adjacent, fun t => h.final⟩
  · rw [hsource]
    exact h.joined front hfront
  · obtain ⟨-, hlt, hle⟩ := h.room hm
    rw [hsource, List.length_append]
    omega

/-- A template in which no marker opens has none. -/
theorem markers_of_unmarked {d : Delimiters} {source : String} (h : Unmarked d (body source).2) :
    markers (segments d source) = [] := by
  simp only [segments, pieces_of_unmarked h, textPiece]
  split <;> rfl

/-- A template is no program if no marker opens in it, or if the first one that
opens is never closed. -/
theorem build?_eq_none_iff (d : Delimiters) (source : String) :
    Program.build? d source = none ↔ Unmarked d (utf8Chars (afterMark source.toList)) := by
  rw [build?_eq, ite_eq_left_iff, ← (body_spec source).1]
  constructor
  · intro h
    refine (scanned_segments d source).unmarked ?_
    by_contra hne
    cases h hne
  · exact fun h hne => absurd (markers_of_unmarked h) hne

/-- **Lossless scanning.** The segments of a template hold all of it but for a mark
of byte order, and no marker is passed over. So a template is no program exactly
if no marker opens in it or the first one that opens is never closed; then it is
compiled to a renderer that writes the template as it is, whatever the data.
-/
theorem segments_lossless (d : Delimiters) (source : String) :
    Lossless d (utf8 source) (utf8Chars (afterMark source.toList)) (segments d source) ∧
    (Program.build? d source = none ↔ Unmarked d (utf8Chars (afterMark source.toList))) ∧
    ∀ c : Compiler, c.config.delimiters = d → Program.build? d source = none →
      c.compile source = .ok (.fixed source) ∧
      ∀ (κ : Type) [TemplateCache κ] (files : Files) (depth : Nat) (data : Json)
        (cache : Option κ),
        (Renderer.fixed source).render files depth data cache = (.done source, cache) := by
  refine ⟨lossless_segments d source, build?_eq_none_iff d source, ?_⟩
  rintro c rfl h
  refine ⟨?_, fun κ _ files depth data cache => rfl⟩
  rw [Compiler.compile, h]

end Scan

end Stencil
