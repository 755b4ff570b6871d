import Stencil.Proofs.Template.Regions
import Stencil.Proofs.Template.Scanned

/-!
# Stencil.Proofs.Template.Content

Where the content of a marker stands in its template: between the delimiters, but
for the sign of the kind in front of it and that of the trim after it. None of
the signs is a quote, so the content has the quoted regions that the search for
the closing delimiter tracked (`tracked_content`).
-/

namespace Stencil

open Text

/-- The place after the opening delimiter of a marker. -/
def Marker.innerStart (d : Delimiters) (m : Marker) : Nat := m.start + (utf8 d.opening).length

/-- The place where the content of a marker begins: after the sign of its kind, if
it has one. -/
def Marker.contentStart (d : Delimiters) (m : Marker) : Nat :=
  m.innerStart d + if m.kind = .code then 0 else 1

theorem Text.IsUtf8.middle {a b : String} {xs : List UInt8}
    (h : IsUtf8 (utf8 a ++ xs ++ utf8 b)) : IsUtf8 xs := by
  have hrest : IsUtf8 (xs ++ utf8 b) := by
    by_cases ha : a = ""
    · subst ha
      exact h
    · have hfront : IsUtf8 ([] ++ utf8 a ++ (xs ++ utf8 b)) := by simpa using h
      exact (hfront.cut ha).2
  by_cases hb : b = ""
  · subst hb
    have hnil : utf8 "" = [] := rfl
    rwa [hnil, List.append_nil] at hrest
  · have hback : IsUtf8 (xs ++ utf8 b ++ []) := by simpa using hrest
    exact (hback.cut hb).1

namespace Scan

open Quotation (after after_eq_outside_of_bare passes_of_bare regions regions_append_of_bare)

/-! ## signs -/

/-- The sign of a trim is cut off. -/
theorem exists_of_cutTrim (inner : List UInt8) :
    ∃ sign : String, (sign = "" ∨ sign = ">" ∨ sign = ">>") ∧
      inner = (cutTrim inner).1 ++ utf8 sign := by
  unfold cutTrim
  split
  · next b rest h =>
    have hsign : utf8 ">>" = [0x3E, 0x3E] := by decide
    refine ⟨">>", by simp, ?_⟩
    rw [← List.reverse_reverse inner, h, hsign]
    simp
  · next b rest _ h =>
    have hsign : utf8 ">" = [0x3E] := by decide
    refine ⟨">", by simp, ?_⟩
    rw [← List.reverse_reverse inner, h, hsign]
    simp
  · exact ⟨"", by simp, (List.append_nil inner).symm⟩

/-- The sign of a kind is cut off. -/
theorem exists_of_cutKind (body : List UInt8) :
    ∃ sign : String, (sign = "" ∨ sign = "-" ∨ sign = "=") ∧
      (utf8 sign).length = (if (cutKind body).2 = .code then 0 else 1) ∧
      body = utf8 sign ++ (cutKind body).1 := by
  unfold cutKind
  split
  · next b rest => exact ⟨"-", by simp, rfl, rfl⟩
  · next b rest => exact ⟨"=", by simp, rfl, rfl⟩
  · exact ⟨"", by simp, rfl, rfl⟩

theorem isQuote_sign {sign : String}
    (h : (sign = "" ∨ sign = ">" ∨ sign = ">>") ∨ (sign = "" ∨ sign = "-" ∨ sign = "=")) :
    ∀ b ∈ utf8 sign, isQuote b = false := by
  rcases h with (rfl | rfl | rfl) | (rfl | rfl | rfl) <;> exact Quotation.forall_eq_false rfl

/-- The content of a marker stands between two signs. -/
theorem exists_signs (d : Delimiters) (start : Nat) {inner : List UInt8} (h : IsUtf8 inner) :
    ∃ sign trim : String,
      ((sign = "" ∨ sign = "-" ∨ sign = "=") ∧ (trim = "" ∨ trim = ">" ∨ trim = ">>")) ∧
      inner = utf8 sign ++ utf8 (markerAt d start inner).content ++ utf8 trim ∧
      (cutTrim inner).1 = utf8 sign ++ utf8 (markerAt d start inner).content ∧
      (utf8 sign).length = if (markerAt d start inner).kind = .code then 0 else 1 := by
  obtain ⟨trim, htrim, heq⟩ := exists_of_cutTrim inner
  obtain ⟨sign, hsign, hlen, hbody⟩ := exists_of_cutKind (cutTrim inner).1
  have hinner : inner = utf8 sign ++ (cutKind (cutTrim inner).1).1 ++ utf8 trim := by
    rw [← hbody, ← heq]
  have hcontent : utf8 (markerAt d start inner).content = (cutKind (cutTrim inner).1).1 :=
    utf8_textOf (IsUtf8.middle (hinner ▸ h))
  refine ⟨sign, trim, ⟨hsign, htrim⟩, ?_, ?_, hlen⟩
  · rw [hcontent]
    exact hinner
  · rw [hcontent]
    exact hbody

/-- None of the signs is a quote. -/
theorem exists_of_markerAt (d : Delimiters) (start : Nat) {inner : List UInt8}
    (h : IsUtf8 inner) :
    ∃ front back : List UInt8,
      inner = front ++ utf8 (markerAt d start inner).content ++ back ∧
      front.length = (if (markerAt d start inner).kind = .code then 0 else 1) ∧
      (∀ b ∈ front, isQuote b = false) ∧ ∀ b ∈ back, isQuote b = false := by
  obtain ⟨sign, trim, ⟨hsign, htrim⟩, hinner, -, hlen⟩ := exists_signs d start h
  exact ⟨utf8 sign, utf8 trim, hinner, hlen, isQuote_sign (.inr hsign), isQuote_sign (.inl htrim)⟩

/-! ## templates -/

/-- The content of a marker ends outside of regions, and its regions are those
that were tracked. -/
theorem tracked_content (d : Delimiters) (source : String) {m : Marker}
    (hm : m ∈ markers (segments d source)) :
    utf8 m.content <+: (utf8 source).drop (m.contentStart d) ∧
    after (utf8 m.content) = .outside ∧
    tracked (utf8 d.closing) 0 (.outside (utf8 d.closing)) (m.innerStart d)
        ((utf8 source).drop (m.innerStart d)) =
      regions 0 .outside (m.contentStart d) (utf8 m.content) := by
  obtain ⟨hbody, front, hsource, hfront⟩ := body_spec source
  obtain ⟨before, inner, tail, heq, hmarker, hclosed⟩ :=
    (scanned_segments d source).exists_of_mem_markers hm
  have hutf8 : IsUtf8 (before ++ utf8 d.opening ++ (inner ++ utf8 d.closing ++ tail)) :=
    ⟨_, by rw [← heq, hbody]⟩
  have hinner : IsUtf8 inner := ((hutf8.cut d.opening_ne).2.cut d.closing_ne).1
  obtain ⟨sign, trim, hsplit, hlen, hsign, htrim⟩ :=
    exists_of_markerAt d ((body source).1 + before.length) hinner
  rw [← hmarker] at hsplit hlen
  -- the octets in front of the marker, and those after its content
  have hstart : m.start = (front ++ before).length := by
    rw [hmarker, start_markerAt, List.length_append, hfront]
  have hwhole : utf8 source =
      front ++ before ++ utf8 d.opening ++ (inner ++ utf8 d.closing ++ tail) := by
    rw [hsource, heq]
    simp only [List.append_assoc]
  have hdrop : (utf8 source).drop (m.innerStart d) = inner ++ utf8 d.closing ++ tail := by
    rw [hwhole, Marker.innerStart, hstart, ← List.length_append, List.drop_left]
  have hcontent : (utf8 source).drop (m.contentStart d) =
      utf8 m.content ++ (trim ++ (utf8 d.closing ++ tail)) := by
    rw [Marker.contentStart, ← List.drop_drop, hdrop, ← hlen, hsplit]
    simp only [List.append_assoc, List.drop_left]
  obtain ⟨inner', tail', hinner', hlen', hafter, hclosing⟩ :=
    exists_of_closedAfter? (utf8_closing_ne d) hclosed
  obtain rfl : inner = inner' := by
    simp only [List.append_assoc] at hinner'
    exact (List.append_inj hinner' (by omega)).1
  have houtside : after (utf8 m.content) = .outside := by
    have hpasses : after (sign ++ utf8 m.content) = after (utf8 m.content) := by
      rw [after, List.foldl_append, (passes_of_bare hsign).foldl, ← after]
    rw [hsplit] at hafter
    rw [← hpasses]
    exact after_eq_outside_of_bare hafter htrim
  refine ⟨⟨_, hcontent.symm⟩, houtside, ?_⟩
  have hback : ∀ b ∈ trim ++ utf8 d.closing, isQuote b = false := fun b hb =>
    (List.mem_append.1 hb).elim (htrim b) (hclosing b)
  have htake : (inner ++ utf8 d.closing ++ tail).take (inner.length + (utf8 d.closing).length) =
      sign ++ (utf8 m.content ++ (trim ++ utf8 d.closing)) := by
    rw [← List.length_append, List.take_left, hsplit]
    simp only [List.append_assoc]
  calc tracked (utf8 d.closing) 0 (.outside (utf8 d.closing)) (m.innerStart d)
        ((utf8 source).drop (m.innerStart d))
      = regions 0 .outside (m.innerStart d)
          (sign ++ (utf8 m.content ++ (trim ++ utf8 d.closing))) := by
        rw [hdrop, tracked_of_closedAfter? hclosed, htake]
        rfl
    _ = regions 0 .outside (m.contentStart d) (utf8 m.content ++ (trim ++ utf8 d.closing)) := by
        rw [(passes_of_bare hsign).regions, hlen]
        rfl
    _ = regions 0 .outside (m.contentStart d) (utf8 m.content) :=
        regions_append_of_bare houtside hback 0 _

end Scan

end Stencil
