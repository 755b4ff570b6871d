/-!
# Stencil.Text.Find

The first occurrence of one sequence in another. `cutAt?` returns what stands
before and after it, and `eq_append_of_cutAt?` says that the pieces make up the
whole.
-/

namespace Stencil.Text

variable {α : Type} [BEq α]

/-- What follows `pat` in a sequence that begins with it. -/
def afterPrefix? : List α → List α → Option (List α)
  | [], xs => some xs
  | _ :: _, [] => none
  | p :: ps, x :: xs => if p == x then afterPrefix? ps xs else none

/-- The parts of a sequence before and after the first occurrence of `pat`. -/
def cutAt? (pat : List α) : List α → Option (List α × List α)
  | [] => if pat.isEmpty then some ([], []) else none
  | x :: xs =>
    match afterPrefix? pat (x :: xs) with
    | some rest => some ([], rest)
    | none => (cutAt? pat xs).map fun (before, rest) => (x :: before, rest)

/-- Whether `pat` occurs in a sequence. -/
def occursIn (pat xs : List α) : Bool := (cutAt? pat xs).isSome

theorem eq_append_of_afterPrefix? [LawfulBEq α] {pat xs rest : List α}
    (h : afterPrefix? pat xs = some rest) : xs = pat ++ rest := by
  induction pat generalizing xs with
  | nil => simpa [afterPrefix?] using h
  | cons p ps ih =>
    cases xs with
    | nil => simp [afterPrefix?] at h
    | cons x xs =>
      simp only [afterPrefix?] at h
      split at h
      · next hp => rw [eq_of_beq hp, ih h]; rfl
      · contradiction

theorem afterPrefix?_append [LawfulBEq α] (pat rest : List α) :
    afterPrefix? pat (pat ++ rest) = some rest := by
  induction pat with
  | nil => rfl
  | cons p ps ih => simp [afterPrefix?, ih]

/-- The pieces around the first occurrence make up the whole. -/
theorem eq_append_of_cutAt? [LawfulBEq α] {pat xs before rest : List α}
    (h : cutAt? pat xs = some (before, rest)) : xs = before ++ pat ++ rest := by
  induction xs generalizing before with
  | nil =>
    simp only [cutAt?] at h
    split at h
    · next hp => simp_all
    · contradiction
  | cons x xs ih =>
    simp only [cutAt?] at h
    split at h
    · next r hr =>
      simp only [Option.some.injEq, Prod.mk.injEq] at h
      obtain ⟨rfl, rfl⟩ := h
      simpa using eq_append_of_afterPrefix? hr
    · obtain ⟨⟨b, r⟩, hb, hr⟩ := Option.map_eq_some_iff.1 h
      simp only [Prod.mk.injEq] at hr
      obtain ⟨rfl, rfl⟩ := hr
      simpa using ih hb

end Stencil.Text
