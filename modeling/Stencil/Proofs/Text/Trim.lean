import Stencil.Proofs.Text.Html
import Stencil.Text.Trim

/-!
# Stencil.Proofs.Text.Trim

What is left of a text when its ends are trimmed (`trimChars_middle`): the longest part
of it that neither begins nor ends with a character to be trimmed.

Trimming may be done before or after each character is written as a run of its own, if
what is trimmed is written as it stands and every other run has bare ends
(`trimChars_flatMap`). Escaping for HTML is of this kind: the special characters are
neither line endings nor blanks, and no entity begins or ends with one
(`trimEnds_escapeHtml`).
-/

namespace Stencil.Text

/-! ## what is left -/

section
variable {p : Char → Bool}

/-- Neither the first nor the last of the characters is a member of `p`. -/
def BareEnds (p : Char → Bool) (cs : List Char) : Prop :=
  (∀ c ∈ cs.head?, p c = false) ∧ ∀ c ∈ cs.getLast?, p c = false

/-- The longest part of `cs` with bare ends: every other one is a part of it. -/
structure Middle (p : Char → Bool) (cs mid : List Char) : Prop where
  part : mid <:+: cs
  bare : BareEnds p mid
  longest : ∀ other, other <:+: cs → BareEnds p other → other <:+: mid

theorem BareEnds.reverse {cs : List Char} (h : BareEnds p cs) : BareEnds p cs.reverse := by
  rw [BareEnds, List.head?_reverse, List.getLast?_reverse]
  exact h.symm

/-- A run with bare ends stops the trimming of what stands before it. -/
theorem BareEnds.dropWhile_append {cs : List Char} (h : BareEnds p cs) (hne : cs ≠ [])
    (front back : List Char) :
    (front ++ cs ++ back).dropWhile p = front.dropWhile p ++ cs ++ back := by
  obtain ⟨c, rest, rfl⟩ := List.exists_cons_of_ne_nil hne
  rw [List.append_assoc, List.append_assoc]
  exact dropWhile_append_cons (h.1 c rfl) front (rest ++ back)

/-- What stands at both sides of such a run is trimmed, and the run is left. -/
theorem BareEnds.trimChars_append {cs : List Char} (h : BareEnds p cs) (hne : cs ≠ [])
    (front back : List Char) : trimChars p (front ++ cs ++ back) =
      front.dropWhile p ++ cs ++ (back.reverse.dropWhile p).reverse := by
  have hback := h.reverse.dropWhile_append (by simpa using hne) back.reverse
    (front.dropWhile p).reverse
  rw [trimChars, h.dropWhile_append hne, List.reverse_append, List.reverse_append,
    ← List.append_assoc, hback]
  simp

/-- Where nothing is to be trimmed, everything is left. -/
theorem trimChars_eq_self {cs : List Char} (h : ∀ c ∈ cs, p c = false) : trimChars p cs = cs := by
  have hdrop : ∀ {ds : List Char}, (∀ c ∈ ds, p c = false) → ds.dropWhile p = ds := by
    intro ds h
    cases ds with
    | nil => rfl
    | cons d ds => exact List.dropWhile_cons_of_neg (by simp [h d])
  rw [trimChars, hdrop h, hdrop fun c hc => h c (List.mem_reverse.1 hc), List.reverse_reverse]

/-- Nothing to be trimmed is left at the ends. -/
theorem bareEnds_trimChars (p : Char → Bool) (cs : List Char) : BareEnds p (trimChars p cs) := by
  have hhead : ∀ ds : List Char, ∀ c ∈ (ds.dropWhile p).head?, p c = false := by
    intro ds c hc
    have hnot := List.head?_dropWhile_not p ds
    rw [hc] at hnot
    exact hnot
  refine ⟨fun c hc => ?_, fun c hc => ?_⟩
  · -- the first character is the one that the first pass has left in front
    have hprefix : trimChars p cs <+: cs.dropWhile p := by
      rw [trimChars, ← List.reverse_suffix, List.reverse_reverse]
      exact List.dropWhile_suffix p
    obtain ⟨rest, hrest⟩ := hprefix
    obtain ⟨ds, hds⟩ := List.head?_eq_some_iff.1 hc
    refine hhead cs c ?_
    rw [← hrest, hds]
    rfl
  · rw [trimChars, List.getLast?_reverse] at hc
    exact hhead (cs.dropWhile p).reverse c hc

/-- **What trimming leaves.** It is the longest part of a text with bare ends. -/
theorem trimChars_middle (p : Char → Bool) (cs : List Char) : Middle p cs (trimChars p cs) where
  part := by
    rw [trimChars, ← List.reverse_infix, List.reverse_reverse]
    refine (List.dropWhile_suffix p).isInfix.trans ?_
    exact List.reverse_infix.2 (List.dropWhile_suffix p).isInfix
  bare := bareEnds_trimChars p cs
  longest := by
    rintro other ⟨front, back, rfl⟩ hbare
    by_cases hne : other = []
    · subst hne
      exact List.nil_infix
    · rw [hbare.trimChars_append hne]
      exact ⟨_, _, rfl⟩

/-! ## characters written as runs -/

/-- How characters are written leaves the ends to be trimmed as they are. -/
structure KeepsEnds (p : Char → Bool) (write : Char → List Char) : Prop where
  trimmed : ∀ c, p c = true → write c = [c]
  kept : ∀ c, p c = false → write c ≠ [] ∧ BareEnds p (write c)

theorem KeepsEnds.reverse {write : Char → List Char} (h : KeepsEnds p write) :
    KeepsEnds p (List.reverse ∘ write) where
  trimmed c hc := by rw [Function.comp, h.trimmed c hc, List.reverse_singleton]
  kept c hc := ⟨by simpa using (h.kept c hc).1, (h.kept c hc).2.reverse⟩

theorem KeepsEnds.dropWhile_flatMap {write : Char → List Char} (h : KeepsEnds p write)
    (cs : List Char) : (cs.flatMap write).dropWhile p = (cs.dropWhile p).flatMap write := by
  induction cs with
  | nil => rfl
  | cons c cs ih =>
    cases hc : p c with
    | true =>
      rw [List.flatMap_cons, h.trimmed c hc, List.singleton_append, List.dropWhile_cons_of_pos hc,
        List.dropWhile_cons_of_pos hc, ih]
    | false =>
      obtain ⟨hne, hbare⟩ := h.kept c hc
      have hdrop := hbare.dropWhile_append hne [] (cs.flatMap write)
      rw [List.dropWhile_cons_of_neg (by simp [hc]), List.flatMap_cons]
      exact hdrop

/-- Trimming and writing may change places. -/
theorem trimChars_flatMap {write : Char → List Char} (h : KeepsEnds p write) (cs : List Char) :
    trimChars p (cs.flatMap write) = (trimChars p cs).flatMap write := by
  rw [trimChars, h.dropWhile_flatMap, List.reverse_flatMap, h.reverse.dropWhile_flatMap,
    List.reverse_flatMap, trimChars]
  simp [Function.comp_def]

end

/-! ## escaping -/

/-- The ends of entities are no blanks, and neither is any special character. -/
theorem keepsEnds_htmlChar {p : Char → Bool} (h : ∀ c ∈ ['&', ';'] ++ specials, p c = false) :
    KeepsEnds p htmlChar where
  trimmed c hc := htmlChar_of_not_mem fun hspecial => by
    rw [h c (List.mem_append_right _ hspecial)] at hc
    cases hc
  kept c hc := by
    by_cases hspecial : c ∈ specials
    · have hends : ∀ entry ∈ entities,
          entry.1.toList.head? = some '&' ∧ entry.1.toList.getLast? = some ';' := by decide
      obtain ⟨entity, hmem, hchar⟩ := exists_entity_of_mem hspecial
      obtain ⟨hfirst, hlast⟩ := hends _ hmem
      rw [hchar, BareEnds, hfirst, hlast]
      refine ⟨fun hnil => ?_, fun d hd => ?_, fun d hd => ?_⟩
      · rw [hnil] at hfirst
        cases hfirst
      · obtain rfl := Option.some.inj hd
        exact h _ (by simp)
      · obtain rfl := Option.some.inj hd
        exact h _ (by simp)
    · rw [htmlChar_of_not_mem hspecial]
      refine ⟨by simp, fun d hd => ?_, fun d hd => ?_⟩ <;>
      · obtain rfl := Option.some.inj hd
        exact hc

theorem trimEnds_escapeHtml {p : Char → Bool} (h : ∀ c ∈ ['&', ';'] ++ specials, p c = false)
    (s : String) : trimEnds p (escapeHtml s) = escapeHtml (trimEnds p s) := by
  apply String.toList_inj.1
  rw [toList_trimEnds, toList_escapeHtml, toList_escapeHtml, toList_trimEnds,
    trimChars_flatMap (keepsEnds_htmlChar h)]

theorem trimLineEndings_escapeHtml (s : String) :
    trimLineEndings (escapeHtml s) = escapeHtml (trimLineEndings s) :=
  trimEnds_escapeHtml (forall_mem_of_all (by decide)) s

theorem trimBlanks_escapeHtml (s : String) :
    trimBlanks (escapeHtml s) = escapeHtml (trimBlanks s) :=
  trimEnds_escapeHtml (forall_mem_of_all (by decide)) s

end Stencil.Text
