import Mathlib.Data.List.Forall2
import Stencil.Proofs.Template.Content

/-!
# Stencil.Proofs.Template.Slices

The offsets at which a scan cuts a template. A part of a text between two offsets is whole
characters only if both offsets are boundaries, so a cut elsewhere has no text (`slice?`).
None of the cuts of a scan is of that kind: `slices_whole`.

Two facts carry this. The octets of a text are cut between characters where a delimiter
begins and where it ends, even if the delimiter itself is of long characters, since the
machine that looks for the closing delimiter stops only after an occurrence of the whole of
it. And the signs that are cut off the inside of a marker are characters of one octet.
-/

namespace Stencil

open Text

/-! ## slices of a text -/

namespace Text

/-- The offset `i` lies in the text or at its end, and in no character. -/
def IsBoundary (source : String) (i : Nat) : Prop :=
  ∃ front, front <+: source.toList ∧ octets front = i

/-- The part of a text between two offsets. There is none unless the offsets are in order,
in the text and between its characters. -/
def slice? (source : String) (start stop : Nat) : Option String :=
  if start ≤ stop then
    (takeOctets? start source.toList).bind fun front =>
      (takeOctets? stop source.toList).map fun more => String.ofList (more.drop front.length)
  else none

theorem isBoundary_iff {source : String} {i : Nat} :
    IsBoundary source i ↔ ∃ front, takeOctets? i source.toList = some front :=
  exists_congr fun _ => and_comm.trans takeOctets?_eq_some_iff.symm

/-- When there is a part. -/
theorem isSome_slice?_iff {source : String} {start stop : Nat} :
    (slice? source start stop).isSome ↔
      start ≤ stop ∧ IsBoundary source start ∧ IsBoundary source stop := by
  simp only [slice?, isBoundary_iff, ← Option.isSome_iff_exists]
  split
  · next hle =>
    cases takeOctets? start source.toList <;> simp [hle]
  · next hlt => simp [hlt]

section
variable {source t : String} {front back : List UInt8}

/-- Octets in front of which a text ends. -/
theorem isBoundary_length (hsource : utf8 source = front ++ back) (hfront : IsUtf8 front) :
    IsBoundary source front.length := by
  obtain ⟨cs, rfl⟩ := hfront
  obtain ⟨ds, hlist, -⟩ := utf8Chars_cut_after hsource
  exact ⟨cs, ⟨ds, hlist.symm⟩, (length_utf8Chars cs).symm⟩

/-- The part where a text stands is the text. -/
theorem slice?_eq_some (hsource : utf8 source = front ++ utf8 t ++ back) (hfront : IsUtf8 front) :
    slice? source front.length (front.length + (utf8 t).length) = some t := by
  obtain ⟨cs, rfl⟩ := hfront
  have hfront : utf8Chars cs ++ utf8 t = utf8Chars (cs ++ t.toList) := (utf8Chars_append _ _).symm
  rw [hfront] at hsource
  obtain ⟨ds, hlist, -⟩ := utf8Chars_cut_after hsource
  have hstart : takeOctets? (utf8Chars cs).length source.toList = some cs := by
    rw [takeOctets?_eq_some_iff, hlist, List.append_assoc]
    exact ⟨(length_utf8Chars cs).symm, List.prefix_append _ _⟩
  have hstop : takeOctets? ((utf8Chars cs).length + (utf8 t).length) source.toList =
      some (cs ++ t.toList) := by
    rw [takeOctets?_eq_some_iff, hlist, octets_append, utf8, length_utf8Chars, length_utf8Chars]
    exact ⟨rfl, List.prefix_append _ _⟩
  rw [slice?, if_pos (Nat.le_add_right _ _), hstart, Option.bind_some, hstop, Option.map_some,
    List.drop_left, String.ofList_toList]

end

end Text

namespace Scan

/-! ## cuts -/

/-- What is cut out of a template, by the offsets of the cuts. -/
inductive Cut where
  | text (start stop : Nat)
  /-- A marker, and its content between the sign of its kind and that of its trim. -/
  | marker (start contentStart contentStop stop : Nat) (kind : MarkerKind) (trim : Trim)
  deriving DecidableEq, Repr

namespace Cut

/-- The offsets of a cut. -/
def offsets : Cut → List Nat
  | .text start stop => [start, stop]
  | .marker start contentStart contentStop stop _ _ => [start, contentStart, contentStop, stop]

/-- The segment that a cut is of a template, if all its texts are parts of the template. -/
def segment? (source : String) : Cut → Option Segment
  | .text start stop => (slice? source start stop).map .text
  | .marker start contentStart contentStop stop kind trim =>
    (slice? source contentStart contentStop).map fun content =>
      .marker { start, stop, content, kind, trim }

/-- The offsets are in order and between characters, and the segment is what they cut out. -/
structure Gives (source : String) (cut : Cut) (segment : Segment) : Prop where
  ordered : cut.offsets.Pairwise (· ≤ ·)
  boundaries : ∀ i ∈ cut.offsets, IsBoundary source i
  segment : cut.segment? source = some segment

end Cut

/-- The cut for a marker with the given first offset and the given octets between its
delimiters. -/
def markerCut (d : Delimiters) (start : Nat) (inner : List UInt8) : Cut :=
  let m := markerAt d start inner
  .marker m.start (m.contentStart d) (m.innerStart d + (cutTrim inner).1.length) m.stop m.kind
    m.trim

/-- The cuts for pieces, the first of which begins at offset `start`. -/
def cutsFrom (d : Delimiters) (start : Nat) : List Piece → List Cut
  | [] => []
  | .text octets :: rest =>
    .text start (start + octets.length) :: cutsFrom d (start + octets.length) rest
  | .marker inner :: rest =>
    markerCut d start inner :: cutsFrom d (markerAt d start inner).stop rest

/-- The cuts of a template. -/
def cuts (d : Delimiters) (source : String) : List Cut :=
  let (start, octets) := body source
  cutsFrom d start (pieces (utf8 d.opening) (utf8 d.closing) octets)

/-! ## what is cut out -/

section
variable {d : Delimiters} {source t : String} {start : Nat} {bs front inner tail : List UInt8}
  {segments : List Segment}

theorem gives_text (hsource : utf8 source = front ++ utf8 t ++ tail) (hfront : IsUtf8 front) :
    Cut.Gives source (.text front.length (front.length + (utf8 t).length)) (.text t) := by
  have hslice := slice?_eq_some hsource hfront
  obtain ⟨hle, hstart, hstop⟩ := isSome_slice?_iff.1 (Option.isSome_of_eq_some hslice)
  refine ⟨by simp [Cut.offsets], ?_, by rw [Cut.segment?, hslice]; rfl⟩
  simp only [Cut.offsets, List.forall_mem_cons, List.not_mem_nil, false_implies, implies_true,
    and_true]
  exact ⟨hstart, hstop⟩

/-- The delimiters and the signs of a marker are texts, so what stands before and after each
of them is too. -/
theorem gives_marker
    (hsource : utf8 source = front ++ utf8 d.opening ++ (inner ++ utf8 d.closing ++ tail))
    (hfront : IsUtf8 front) (hinner : IsUtf8 inner) :
    Cut.Gives source (markerCut d front.length inner)
      (.marker (markerAt d front.length inner)) := by
  obtain ⟨sign, trim, -, hsplit, hbody, hsign⟩ := exists_signs d front.length hinner
  generalize hm : markerAt d front.length inner = m at hsplit hbody hsign
  have hopened : IsUtf8 (front ++ utf8 d.opening) := hfront.append (isUtf8_utf8 _)
  have hsigned : IsUtf8 (front ++ utf8 d.opening ++ utf8 sign) := hopened.append (isUtf8_utf8 _)
  have hclosed : IsUtf8 (front ++ utf8 d.opening ++ inner ++ utf8 d.closing) :=
    (hopened.append hinner).append (isUtf8_utf8 _)
  have hstart : m.start = front.length := by rw [← hm, start_markerAt]
  have hcontent : m.contentStart d = (front ++ utf8 d.opening ++ utf8 sign).length := by
    rw [Marker.contentStart, Marker.innerStart, hstart, ← hsign]
    simp only [List.length_append]
  have hlast : m.innerStart d + (cutTrim inner).1.length =
      m.contentStart d + (utf8 m.content).length := by
    rw [hcontent, Marker.innerStart, hstart, hbody]
    simp only [List.length_append]
    omega
  have hstop : m.stop = (front ++ utf8 d.opening ++ inner ++ utf8 d.closing).length := by
    rw [← hm, stop_markerAt]
    simp only [List.length_append]
  have hslice : slice? source (m.contentStart d) (m.contentStart d + (utf8 m.content).length) =
      some m.content := by
    have hwhole : utf8 source = front ++ utf8 d.opening ++ utf8 sign ++ utf8 m.content ++
        (utf8 trim ++ (utf8 d.closing ++ tail)) := by
      rw [hsource, hsplit]
      simp only [List.append_assoc]
    rw [hcontent]
    exact slice?_eq_some hwhole hsigned
  obtain ⟨-, hboundary, hboundary'⟩ := isSome_slice?_iff.1 (Option.isSome_of_eq_some hslice)
  rw [markerCut, hm, hlast]
  refine ⟨?_, ?_, ?_⟩
  · have hle : m.contentStart d + (utf8 m.content).length ≤ m.stop := by
      rw [hcontent, hstop, hsplit]
      simp only [List.length_append]
      omega
    have hle' : m.start ≤ m.contentStart d := by
      rw [Marker.contentStart, Marker.innerStart]
      omega
    simp [Cut.offsets]
    omega
  · simp only [Cut.offsets, List.forall_mem_cons, List.not_mem_nil, false_implies, implies_true,
      and_true]
    refine ⟨?_, hboundary, hboundary', ?_⟩
    · rw [hstart]
      exact isBoundary_length (hsource.trans (List.append_assoc _ _ _)) hfront
    · have hwhole : utf8 source =
          front ++ utf8 d.opening ++ inner ++ utf8 d.closing ++ tail := by
        rw [hsource]
        simp only [List.append_assoc]
      rw [hstop]
      exact isBoundary_length hwhole hclosed
  · rw [Cut.segment?, hslice]
    rfl

theorem cutsFrom_textPiece (start : Nat) (t : String) (rest : List Piece) :
    cutsFrom d start (textPiece (utf8 t) ++ rest) =
      (if t = "" then [] else [.text start (start + (utf8 t).length)]) ++
        cutsFrom d (start + (utf8 t).length) rest := by
  by_cases ht : t = ""
  · subst ht
    rfl
  · have hne : utf8 t ≠ [] := fun h => ht (utf8_eq_nil_iff.1 h)
    have hpiece : textPiece (utf8 t) = [.text (utf8 t)] := by simp [textPiece, hne]
    rw [hpiece, if_neg ht]
    rfl

/-- Cuts in front of which a text stands. -/
theorem gives_textPiece {rest : List Piece} (hfront : IsUtf8 front)
    (hsource : utf8 source = front ++ utf8 t ++ tail)
    (hrest : List.Forall₂ (Cut.Gives source)
      (cutsFrom d (front.length + (utf8 t).length) rest) segments) :
    List.Forall₂ (Cut.Gives source) (cutsFrom d front.length (textPiece (utf8 t) ++ rest))
      (textSegment t ++ segments) := by
  rw [cutsFrom_textPiece, textSegment]
  split
  · exact hrest
  · exact .cons (gives_text hsource hfront) hrest

/-- The cuts for octets at the end of a template give their segments. -/
theorem Scanned.gives (h : Scanned d start bs segments) {front : List UInt8}
    (hsource : utf8 source = front ++ bs) (hfront : IsUtf8 front) (hlen : front.length = start) :
    List.Forall₂ (Cut.Gives source)
      (cutsFrom d start (pieces (utf8 d.opening) (utf8 d.closing) bs)) segments := by
  induction h generalizing front with
  | rest start t hrest =>
    subst hlen
    rw [pieces_of_unmarked hrest, ← List.append_nil (textPiece _),
      ← List.append_nil (textSegment t)]
    exact gives_textPiece hfront (hsource.trans (List.append_nil _).symm) .nil
  | @marker start t inner tail segments hfirst hinner hclosed hsegments ih =>
    subst hlen
    have hbefore : IsUtf8 (front ++ utf8 t) := hfront.append (isUtf8_utf8 _)
    have hwhole : utf8 source =
        front ++ utf8 t ++ utf8 d.opening ++ (inner ++ utf8 d.closing ++ tail) := by
      rw [hsource]
      simp only [List.append_assoc]
    have hpast : IsUtf8 (front ++ utf8 t ++ utf8 d.opening ++ inner ++ utf8 d.closing) :=
      ((hbefore.append (isUtf8_utf8 _)).append hinner).append (isUtf8_utf8 _)
    rw [pieces_of_marker hfirst hclosed]
    refine gives_textPiece hfront (hwhole.trans (List.append_assoc _ _ _)) ?_
    rw [← List.length_append] at hsegments ih ⊢
    refine .cons (gives_marker hwhole hbefore hinner) (ih ?_ hpast ?_)
    · rw [hwhole]
      simp only [List.append_assoc]
    · simp only [stop_markerAt, List.length_append]

end

/-! ## templates -/

/-- **Scanning cuts no character.** Every offset at which a template is cut lies between two
of its characters: the one after a mark of byte order, those around a text, those around a
marker, and those around the content of the marker. The offsets of each cut are in order, and
the segments of the template are the parts of it that are cut out there. While the scan looks
for the end of a marker, there is always an octet of the closing delimiter that it waits
for. -/
theorem slices_whole (d : Delimiters) (source : String) :
    IsBoundary source (body source).1 ∧
    List.Forall₂ (Cut.Gives source) (cuts d source) (segments d source) ∧
    ∀ bs left, run (utf8 d.closing) (.outside (utf8 d.closing)) bs = some (.outside left) →
      left ≠ [] := by
  obtain ⟨hbody, front, hsource, hlen⟩ := body_spec source
  have hfront : IsUtf8 front := by
    have hwhole : utf8 source =
        utf8 "" ++ front ++ utf8 (String.ofList (afterMark source.toList)) := by
      rw [hsource, hbody, utf8_ofList (afterMark source.toList)]
      rfl
    exact IsUtf8.middle (hwhole ▸ isUtf8_utf8 source)
  refine ⟨hlen ▸ isBoundary_length hsource hfront,
    (scanned_segments d source).gives hsource hfront hlen, fun bs left hrun => ?_⟩
  exact ((follows_start (utf8_closing_ne d)).run (utf8_closing_ne d) hrun).matched left rfl |>.1

/-- Delimiters of two octets each, which begin with the same octet, and one of them after a
backslash in a string. -/
theorem slices_whole_string :
    cuts (.ofTexts "«" "»") "\uFEFFß«-\"\\»\">»é" =
        [.text 3 5, .marker 5 8 13 16 .raw .lineEndings, .text 16 18] ∧
      IsBoundary "\uFEFFß«-\"\\»\">»é" 3 ∧
      List.Forall₂ (Cut.Gives "\uFEFFß«-\"\\»\">»é")
        [.text 3 5, .marker 5 8 13 16 .raw .lineEndings, .text 16 18]
        [.text "ß", .marker ⟨5, 16, "\"\\»\"", .raw, .lineEndings⟩, .text "é"] := by
  have hcuts : cuts (.ofTexts "«" "»") "\uFEFFß«-\"\\»\">»é" =
      [.text 3 5, .marker 5 8 13 16 .raw .lineEndings, .text 16 18] := by decide +kernel
  have hsegments : segments (.ofTexts "«" "»") "\uFEFFß«-\"\\»\">»é" =
      [.text "ß", .marker ⟨5, 16, "\"\\»\"", .raw, .lineEndings⟩, .text "é"] := by
    decide +kernel
  obtain ⟨hfirst, hgives, -⟩ := slices_whole (.ofTexts "«" "»") "\uFEFFß«-\"\\»\">»é"
  rw [hcuts, hsegments] at hgives
  exact ⟨hcuts, hfirst, hgives⟩

end Scan

end Stencil
