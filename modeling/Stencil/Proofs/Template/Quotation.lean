import Stencil.Template.Scan

/-!
# Stencil.Proofs.Template.Quotation

Quoted regions of the octets that stand after an opening delimiter. A quote
opens a region if none is open, and the same quote closes it; both belong to the
region. A backslash in a region hides the octet after it, and outside of regions
it is an octet like any other.

`BareAt` is an occurrence of a text with no quoted octet. What makes it one is
where it begins, and that the text has no quote itself: `bareAt_iff`.
-/

namespace Stencil.Quotation

open Scan (isQuote backslash)

/-- Where reading stands: outside of regions, in a region that `quote` opened,
or in it after a backslash. -/
inductive State where
  | outside
  | inside (quote : UInt8)
  | hidden (quote : UInt8)
  deriving DecidableEq, Repr

/-- The state after one more octet. -/
def step : State → UInt8 → State
  | .outside, b => if isQuote b then .inside b else .outside
  | .inside quote, b =>
    if b == backslash then .hidden quote
    else if b == quote then .outside
    else .inside quote
  | .hidden quote, _ => .inside quote

/-- The state after octets that are read from the outside. -/
def after (bs : List UInt8) : State := bs.foldl step .outside

@[simp] theorem after_nil : after [] = .outside := rfl

@[simp] theorem after_concat (bs : List UInt8) (b : UInt8) :
    after (bs ++ [b]) = step (after bs) b := by
  simp [after]

/-- Octets that are no quotes open no region. -/
theorem after_append_of_bare {bs ws : List UInt8} (h : after bs = .outside)
    (hws : ∀ b ∈ ws, isQuote b = false) : after (bs ++ ws) = .outside := by
  induction ws generalizing bs with
  | nil => simpa using h
  | cons w ws ih =>
    have hw : after (bs ++ [w]) = .outside := by
      rw [after_concat, h, step, hws w (by simp)]
      rfl
    simpa using ih hw (fun b hb => hws b (by simp [hb]))

/-- Whether a list has no member of a class is decided along the list, not over all
values of the type of its members. -/
theorem forall_eq_false {α : Type} {p : α → Bool} {l : List α} (h : l.any p = false) :
    ∀ x ∈ l, p x = false := fun x hx => Bool.eq_false_iff.2 (List.any_eq_false.1 h x hx)

/-- The octet at `i` belongs to no region. -/
def Bare (bs : List UInt8) (i : Nat) : Prop :=
  after (bs.take i) = .outside ∧ ∃ b, bs[i]? = some b ∧ isQuote b = false

/-- `pat` occurs in `bs` at `i`, and all octets of the occurrence are bare. -/
structure BareAt (pat bs : List UInt8) (i : Nat) : Prop where
  occurs : pat <+: bs.drop i
  bare : ∀ j < pat.length, Bare bs (i + j)

/-- An occurrence that is not at one of the places of `bs` or right after them is one
of the empty text, which occurs at the front too. -/
theorem forall_not_bareAt_iff {pat bs : List UInt8} :
    (∀ i, ¬ BareAt pat bs i) ↔ ∀ i < bs.length + 1, ¬ BareAt pat bs i := by
  constructor
  · exact fun h i _ => h i
  · intro h i hi
    by_cases hle : i ≤ bs.length
    · exact h i (by omega) hi
    · have hdrop : bs.drop i = [] := List.drop_eq_nil_of_le (by omega)
      have hpat : pat <+: [] := hdrop ▸ hi.occurs
      obtain rfl : pat = [] := List.prefix_nil.1 hpat
      exact h 0 (by omega) ⟨List.nil_prefix, by simp⟩

instance (bs : List UInt8) (i : Nat) : Decidable (Bare bs i) :=
  decidable_of_iff (after (bs.take i) = .outside ∧ bs[i]?.any (fun b => !isQuote b) = true) (by
    rw [Bare]
    cases bs[i]? <;> simp)

instance (pat bs : List UInt8) (i : Nat) : Decidable (BareAt pat bs i) :=
  decidable_of_iff (pat <+: bs.drop i ∧ ∀ j < pat.length, Bare bs (i + j))
    ⟨fun h => ⟨h.1, h.2⟩, fun h => ⟨h.occurs, h.bare⟩⟩

instance (pat bs : List UInt8) : Decidable (∀ i, ¬ BareAt pat bs i) :=
  decidable_of_iff _ forall_not_bareAt_iff.symm

/-- What is read from the outside after `xs` stands where it did. -/
theorem after_append_of_outside {xs : List UInt8} (h : after xs = .outside) (ys : List UInt8) :
    after (xs ++ ys) = after ys := by
  rw [after, List.foldl_append, ← after, h, ← after]

/-- An occurrence is bare behind octets that leave no region open. -/
theorem BareAt.append {pat xs ys : List UInt8} {i : Nat} (h : BareAt pat ys i)
    (hxs : after xs = .outside) : BareAt pat (xs ++ ys) (xs.length + i) := by
  refine ⟨?_, fun j hj => ?_⟩
  · rw [List.drop_length_add_append]
    exact h.occurs
  · obtain ⟨hafter, b, hget, hquote⟩ := h.bare j hj
    refine ⟨?_, b, ?_, hquote⟩
    · rw [Nat.add_assoc, List.take_length_add_append, after_append_of_outside hxs, hafter]
    · rw [Nat.add_assoc, List.getElem?_append_right (by omega), Nat.add_sub_cancel_left, hget]

theorem getElem?_middle {before pat rest : List UInt8} {j : Nat} (hj : j < pat.length) :
    (before ++ pat ++ rest)[before.length + j]? = some pat[j] := by
  rw [List.append_assoc, List.getElem?_append_right (by omega), Nat.add_sub_cancel_left,
    List.getElem?_append_left hj, List.getElem?_eq_getElem hj]

theorem bareAt_append {before pat rest : List UInt8} (h : after before = .outside)
    (hpat : ∀ b ∈ pat, isQuote b = false) : BareAt pat (before ++ pat ++ rest) before.length := by
  refine ⟨?_, fun j hj => ⟨?_, pat[j], getElem?_middle hj, hpat _ (List.getElem_mem hj)⟩⟩
  · rw [List.append_assoc, List.drop_left]
    exact List.prefix_append pat rest
  · have htake : (before ++ pat ++ rest).take (before.length + j) = before ++ pat.take j := by
      rw [List.append_assoc, List.take_length_add_append, List.take_append_of_le_length (by omega)]
    rw [htake]
    exact after_append_of_bare h fun b hb => hpat b (List.mem_of_mem_take hb)

/-- An occurrence is bare where it begins outside of regions, if `pat` has no
quote. -/
theorem bareAt_iff {pat bs : List UInt8} {i : Nat} (hne : pat ≠ []) :
    BareAt pat bs i ↔ ∃ before rest, bs = before ++ pat ++ rest ∧ before.length = i ∧
      after before = .outside ∧ ∀ b ∈ pat, isQuote b = false := by
  constructor
  · rintro ⟨⟨rest, hrest⟩, hbare⟩
    have hlen : i + pat.length ≤ bs.length := by
      have hpos := List.length_pos_iff.2 hne
      have hdrop := congrArg List.length hrest
      rw [List.length_append, List.length_drop] at hdrop
      omega
    have hbs : bs = bs.take i ++ pat ++ rest := by
      rw [List.append_assoc, hrest, List.take_append_drop]
    have htake : (bs.take i).length = i := List.length_take_of_le (by omega)
    refine ⟨bs.take i, rest, hbs, htake, (hbare 0 (List.length_pos_iff.2 hne)).1, fun b hb => ?_⟩
    obtain ⟨j, hj, rfl⟩ := List.getElem_of_mem hb
    obtain ⟨-, b, hget, hquote⟩ := hbare j hj
    have hmiddle : (bs.take i ++ pat ++ rest)[(bs.take i).length + j]? = some pat[j] :=
      getElem?_middle hj
    rw [← hbs, htake, hget] at hmiddle
    rwa [← Option.some.inj hmiddle]
  · rintro ⟨before, rest, rfl, rfl, hbefore, hpat⟩
    exact bareAt_append hbefore hpat

end Stencil.Quotation
