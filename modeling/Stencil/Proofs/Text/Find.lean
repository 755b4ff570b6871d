import Stencil.Text.Find

/-!
# Stencil.Proofs.Text.Find

`cutAt?` finds the first occurrence: `FirstAt` says what that is without saying
how it is found, `cutAt?_eq_some_iff` and `cutAt?_eq_none_iff` are the two
outcomes. What follows a sequence does not matter where its first member ends a
run (`takeWhile_append_cons`) or is none of a pattern (`afterPrefix?_append_cons`).
-/

namespace Stencil.Text

variable {α : Type}

/-! ## members -/

/-- A list is looked through, even if its members are of a type that could be. -/
theorem forall_mem_of_all {p : α → Prop} [DecidablePred p] {xs : List α}
    (h : (xs.all fun x => decide (p x)) = true) : ∀ x ∈ xs, p x :=
  fun x hx => of_decide_eq_true (List.all_eq_true.1 h x hx)

/-! ## runs -/

section
variable {p : α → Bool} {x : α}

theorem takeWhile_append_cons (hx : p x = false) (xs more : List α) :
    (xs ++ x :: more).takeWhile p = xs.takeWhile p := by
  induction xs with
  | nil => simp [hx]
  | cons y ys ih => simp only [List.cons_append, List.takeWhile_cons, ih]

theorem dropWhile_append_cons (hx : p x = false) (xs more : List α) :
    (xs ++ x :: more).dropWhile p = xs.dropWhile p ++ x :: more := by
  induction xs with
  | nil => simp [hx]
  | cons y ys ih =>
    simp only [List.cons_append, List.dropWhile_cons, ih]
    split <;> rfl

end

/-! ## first occurrences -/

/-- The first place where `pat` occurs in `xs` is `i`. -/
structure FirstAt (pat xs : List α) (i : Nat) : Prop where
  occurs : pat <+: xs.drop i
  first : ∀ j < i, ¬ pat <+: xs.drop j

instance [DecidableEq α] (pat xs : List α) (i : Nat) : Decidable (FirstAt pat xs i) :=
  decidable_of_iff (pat <+: xs.drop i ∧ ∀ j < i, ¬ pat <+: xs.drop j)
    ⟨fun h => ⟨h.1, h.2⟩, fun h => ⟨h.occurs, h.first⟩⟩

/-- Whether a place is the first one shows in what stands up to the end of the
occurrence there. -/
theorem firstAt_append_iff {pat xs rest : List α} :
    FirstAt pat (xs ++ pat ++ rest) xs.length ↔ FirstAt pat (xs ++ pat) xs.length := by
  have hcut : ∀ j ≤ xs.length,
      (pat <+: (xs ++ pat ++ rest).drop j ↔ pat <+: (xs ++ pat).drop j) := by
    intro j hj
    have hlen : pat.length ≤ ((xs ++ pat).drop j).length := by
      rw [List.length_drop, List.length_append]
      omega
    rw [List.drop_append_of_le_length (by rw [List.length_append]; omega)]
    constructor
    · exact fun h => List.prefix_of_prefix_length_le h (List.prefix_append _ _) hlen
    · exact fun h => h.trans (List.prefix_append _ _)
  constructor
  · exact fun h => ⟨(hcut _ (Nat.le_refl _)).1 h.occurs, fun j hj hp =>
      h.first j hj ((hcut j (by omega)).2 hp)⟩
  · exact fun h => ⟨(hcut _ (Nat.le_refl _)).2 h.occurs, fun j hj hp =>
      h.first j hj ((hcut j (by omega)).1 hp)⟩

/-- There is no place before the front. -/
theorem firstAt_zero_iff {pat xs : List α} : FirstAt pat xs 0 ↔ pat <+: xs :=
  ⟨fun h => h.occurs, fun h => ⟨h, fun j hj => absurd hj (Nat.not_lt_zero j)⟩⟩

theorem firstAt_succ_iff {pat xs : List α} {x : α} {i : Nat} :
    FirstAt pat (x :: xs) (i + 1) ↔ ¬ pat <+: x :: xs ∧ FirstAt pat xs i := by
  constructor
  · exact fun h => ⟨h.first 0 (by omega), h.occurs, fun j hj => h.first (j + 1) (by omega)⟩
  · rintro ⟨hzero, h⟩
    refine ⟨h.occurs, fun j hj => ?_⟩
    cases j with
    | zero => exact hzero
    | succ j => exact h.first j (by omega)

variable [BEq α] [LawfulBEq α]

theorem afterPrefix?_eq_some_iff {pat xs rest : List α} :
    afterPrefix? pat xs = some rest ↔ xs = pat ++ rest := by
  constructor
  · exact eq_append_of_afterPrefix?
  · rintro rfl
    exact afterPrefix?_append pat rest

theorem afterPrefix?_eq_none_iff {pat xs : List α} :
    afterPrefix? pat xs = none ↔ ¬ pat <+: xs := by
  rw [Option.eq_none_iff_forall_ne_some]
  constructor
  · rintro h ⟨rest, rfl⟩
    exact h rest (afterPrefix?_append pat rest)
  · intro h rest hr
    exact h ⟨rest, (eq_append_of_afterPrefix? hr).symm⟩

/-- A pattern does not reach over something that is not in it. -/
theorem afterPrefix?_append_cons {pat : List α} {x : α} (hx : x ∉ pat) (xs more : List α) :
    afterPrefix? pat (xs ++ x :: more) = (afterPrefix? pat xs).map (· ++ x :: more) := by
  induction pat generalizing xs with
  | nil => rfl
  | cons p ps ih =>
    rw [List.mem_cons, not_or] at hx
    cases xs with
    | nil => simp [afterPrefix?, Ne.symm hx.1]
    | cons y ys =>
      rw [List.cons_append, afterPrefix?, afterPrefix?, ih hx.2]
      split <;> rfl

theorem isPrefix_append_cons_iff {pat : List α} {x : α} (hx : x ∉ pat) (xs more : List α) :
    pat <+: xs ++ x :: more ↔ pat <+: xs := by
  constructor
  · rintro ⟨rest, heq⟩
    have hafter := afterPrefix?_eq_some_iff.2 heq.symm
    rw [afterPrefix?_append_cons hx] at hafter
    obtain ⟨after, hafter, -⟩ := Option.map_eq_some_iff.1 hafter
    exact ⟨after, (eq_append_of_afterPrefix? hafter).symm⟩
  · exact fun h => h.trans (List.prefix_append _ _)

theorem cutAt?_cons_of_append {pat xs rest : List α} {x : α} (h : x :: xs = pat ++ rest) :
    cutAt? pat (x :: xs) = some ([], rest) := by
  rw [cutAt?, h, afterPrefix?_append]

theorem cutAt?_cons_of_not_isPrefix {pat xs : List α} {x : α} (h : ¬ pat <+: x :: xs) :
    cutAt? pat (x :: xs) = (cutAt? pat xs).map fun (before, rest) => (x :: before, rest) := by
  rw [cutAt?, afterPrefix?_eq_none_iff.2 h]

/-- Cutting is at the first occurrence. -/
theorem cutAt?_eq_some_iff {pat xs before rest : List α} :
    cutAt? pat xs = some (before, rest) ↔
      xs = before ++ pat ++ rest ∧ FirstAt pat xs before.length := by
  constructor
  · intro h
    refine ⟨eq_append_of_cutAt? h, ?_⟩
    induction xs generalizing before with
    | nil =>
      obtain ⟨rfl, rfl, -⟩ : before = [] ∧ pat = [] ∧ rest = [] := by
        simpa using eq_append_of_cutAt? h
      exact firstAt_zero_iff.2 List.nil_prefix
    | cons x xs ih =>
      by_cases hp : pat <+: x :: xs
      · obtain ⟨after, hafter⟩ := hp
        rw [cutAt?_cons_of_append hafter.symm] at h
        obtain ⟨rfl, rfl⟩ : [] = before ∧ after = rest := by simpa using h
        exact firstAt_zero_iff.2 ⟨after, hafter⟩
      · rw [cutAt?_cons_of_not_isPrefix hp] at h
        obtain ⟨⟨before', rest'⟩, hcut, heq⟩ := Option.map_eq_some_iff.1 h
        obtain ⟨rfl, rfl⟩ : x :: before' = before ∧ rest' = rest := by simpa using heq
        exact firstAt_succ_iff.2 ⟨hp, ih hcut⟩
  · rintro ⟨heq, hfirst⟩
    induction xs generalizing before with
    | nil =>
      obtain ⟨rfl, rfl, rfl⟩ : before = [] ∧ pat = [] ∧ rest = [] := by simpa using heq
      rfl
    | cons x xs ih =>
      cases before with
      | nil => exact cutAt?_cons_of_append heq
      | cons y before =>
        obtain ⟨hp, hlater⟩ := firstAt_succ_iff.1 hfirst
        obtain ⟨rfl, htail⟩ := List.cons.inj heq
        rw [cutAt?_cons_of_not_isPrefix hp, ih htail hlater]
        rfl

/-- What follows does not matter to where the pattern occurs first. -/
theorem cutAt?_append {pat xs before rest : List α} (h : cutAt? pat xs = some (before, rest))
    (more : List α) : cutAt? pat (xs ++ more) = some (before, rest ++ more) := by
  obtain ⟨rfl, hfirst⟩ := cutAt?_eq_some_iff.1 h
  rw [List.append_assoc]
  exact cutAt?_eq_some_iff.2 ⟨rfl, firstAt_append_iff.2 (firstAt_append_iff.1 hfirst)⟩

/-- A single member occurs first where nothing before is equal to it. -/
theorem cutAt?_singleton {x : α} {before : List α} (h : x ∉ before) (rest : List α) :
    cutAt? [x] (before ++ x :: rest) = some (before, rest) := by
  refine cutAt?_eq_some_iff.2 ⟨by simp, ⟨by simp, fun j hj hstarts => h ?_⟩⟩
  rw [List.drop_append_of_le_length (by omega), List.drop_eq_getElem_cons hj] at hstarts
  rw [(List.cons_prefix_cons.1 hstarts).1]
  exact List.getElem_mem hj

/-- Nothing is cut where the pattern does not occur. -/
theorem cutAt?_eq_none_iff {pat xs : List α} : cutAt? pat xs = none ↔ ¬ pat <:+: xs := by
  induction xs with
  | nil =>
    cases pat with
    | nil => simp [cutAt?]
    | cons p ps => simp [cutAt?]
  | cons x xs ih =>
    rw [List.infix_cons_iff, not_or, ← ih]
    by_cases hp : pat <+: x :: xs
    · obtain ⟨rest, hrest⟩ := hp
      rw [cutAt?_cons_of_append hrest.symm]
      simp [← hrest]
    · simp [cutAt?_cons_of_not_isPrefix hp, hp]

end Stencil.Text
