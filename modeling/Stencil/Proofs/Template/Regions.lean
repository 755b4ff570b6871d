import Stencil.Proofs.Template.Closing

/-!
# Stencil.Proofs.Template.Regions

The places of quoted regions. A region is given by the place of its opening quote
and by that after its closing one. `Quotation.regions` lists the regions of
octets, and `tracked` those that the search for a closing delimiter goes through
until it stops.

1. Reading goes on after octets as if they were not there, if they neither open
   nor close a region (`Passes`).
2. The search tracks the regions of what stands before the closing delimiter
   (`tracked_of_closedAfter?`).
-/

namespace Stencil

namespace Quotation

open Scan (isQuote backslash)

/-- The regions that are closed in octets the first of which is at the place `i`.
If a region is open already, its quote is at the place `opened`. -/
def regions (opened : Nat) : State → Nat → List UInt8 → List (Nat × Nat)
  | _, _, [] => []
  | .outside, i, b :: bs =>
    if isQuote b then regions i (.inside b) (i + 1) bs
    else regions opened .outside (i + 1) bs
  | .inside quote, i, b :: bs =>
    if b == backslash then regions opened (.hidden quote) (i + 1) bs
    else if b == quote then (opened, i + 1) :: regions opened .outside (i + 1) bs
    else regions opened (.inside quote) (i + 1) bs
  | .hidden quote, i, _ :: bs => regions opened (.inside quote) (i + 1) bs

/-- Outside of regions it does not matter where the last one began. -/
theorem regions_outside (opened opened' i : Nat) (bs : List UInt8) :
    regions opened .outside i bs = regions opened' .outside i bs := by
  induction bs generalizing i with
  | nil => rfl
  | cons b bs ih => rw [regions, regions, ih]

/-- The octets lead from one state to another, and no region begins or ends
there. -/
structure Passes (s s' : State) (bs : List UInt8) : Prop where
  foldl : bs.foldl step s = s'
  regions : ∀ opened i rest,
    regions opened s i (bs ++ rest) = Quotation.regions opened s' (i + bs.length) rest

/-- Without octets the state stays. -/
theorem Passes.nil (s : State) : Passes s s [] := ⟨rfl, fun _ _ _ => rfl⟩

/-- Octets lead on from the state that others lead to. -/
theorem Passes.append {s s' s'' : State} {xs ys : List UInt8} (hx : Passes s s' xs)
    (hy : Passes s' s'' ys) : Passes s s'' (xs ++ ys) := by
  constructor
  · rw [List.foldl_append, hx.foldl, hy.foldl]
  · intro opened i rest
    rw [List.append_assoc, hx.regions, hy.regions, List.length_append, Nat.add_assoc]

/-- An octet may come in front. -/
theorem Passes.cons {s s' s'' : State} {x : UInt8} {ys : List UInt8} (hx : Passes s s' [x])
    (hy : Passes s' s'' ys) : Passes s s'' (x :: ys) := hx.append hy

/-- Outside of regions an octet that is no quote is passed over. -/
theorem passes_outside {b : UInt8} (h : isQuote b = false) : Passes .outside .outside [b] :=
  ⟨by simp [step, h], fun opened i rest => by simp [Quotation.regions, h]⟩

/-- Inside of a region any octet is but its quote and a backslash. -/
theorem passes_inside {quote b : UInt8} (hslash : b ≠ backslash) (hquote : b ≠ quote) :
    Passes (.inside quote) (.inside quote) [b] :=
  ⟨by simp [step, hslash, hquote], fun opened i rest => by
    simp [Quotation.regions, hslash, hquote]⟩

/-- A backslash hides the next octet. -/
theorem passes_backslash (quote : UInt8) : Passes (.inside quote) (.hidden quote) [backslash] :=
  ⟨by simp [step], fun opened i rest => by simp [Quotation.regions]⟩

/-- A hidden octet is passed over, whatever it is. -/
theorem passes_hidden (quote b : UInt8) : Passes (.hidden quote) (.inside quote) [b] :=
  ⟨rfl, fun _ _ _ => rfl⟩

/-- Octets that are each passed in one state are passed in it. -/
theorem passes_of_forall {s : State} {bs : List UInt8} (h : ∀ b ∈ bs, Passes s s [b]) :
    Passes s s bs := by
  induction bs with
  | nil => exact .nil s
  | cons b bs ih => exact .cons (h b (by simp)) (ih fun x hx => h x (by simp [hx]))

/-- A region that begins and ends in octets. -/
theorem regions_region {quote : UInt8} (hquote : isQuote quote = true) {body : List UInt8}
    (h : Passes (.inside quote) (.inside quote) body) (opened i : Nat) (rest : List UInt8) :
    regions opened .outside i (quote :: body ++ quote :: rest) =
      (i, i + (body.length + 2)) :: regions opened .outside (i + (body.length + 2)) rest := by
  have hslash : quote ≠ backslash := by
    rintro rfl
    exact absurd hquote (by decide)
  have hend : i + 1 + body.length + 1 = i + (body.length + 2) := by omega
  rw [List.cons_append, Quotation.regions, if_pos hquote, h.regions, Quotation.regions,
    if_neg (by simpa using hslash), if_pos (by simp), hend, regions_outside i opened]

/-- A region leaves no region open. -/
theorem after_region {quote : UInt8} (hquote : isQuote quote = true) {body : List UInt8}
    (h : Passes (.inside quote) (.inside quote) body) :
    after (quote :: body ++ [quote]) = .outside := by
  have hslash : quote ≠ backslash := by
    rintro rfl
    exact absurd hquote (by decide)
  have hopen : step .outside quote = .inside quote := by rw [step, if_pos hquote]
  rw [after_concat, after, List.foldl_cons, hopen, h.foldl]
  simp [step, hslash]

/-- Octets that close a region that is open before them do not pass it. -/
theorem regions_ne_nil {s : State} {xs : List UInt8} (hs : s ≠ .outside)
    (h : xs.foldl step s = .outside) (opened i : Nat) (ys : List UInt8) :
    regions opened s i (xs ++ ys) ≠ [] := by
  induction xs generalizing s i with
  | nil => exact absurd h hs
  | cons x xs ih =>
    rw [List.foldl_cons] at h
    cases s with
    | outside => exact absurd rfl hs
    | hidden quote => exact ih State.noConfusion h (i + 1)
    | inside quote =>
      by_cases hslash : x = backslash
      · have hstep : step (.inside quote) x = .hidden quote := by simp [step, hslash]
        rw [hstep] at h
        simpa [regions, hslash] using ih State.noConfusion h (i + 1)
      · by_cases hquote : x = quote
        · subst hquote
          simp [regions, hslash]
        · have hstep : step (.inside quote) x = .inside quote := by simp [step, hslash, hquote]
          rw [hstep] at h
          simpa [regions, hslash, hquote] using ih State.noConfusion h (i + 1)

/-- A region is open wherever reading stands in it. -/
theorem after_ne_outside {quote : UInt8} (hquote : isQuote quote = true)
    {body xs ys : List UInt8} (h : Passes (.inside quote) (.inside quote) body)
    (hsplit : quote :: body = quote :: xs ++ ys) : after (quote :: xs) ≠ .outside := by
  intro hafter
  have hopen : step .outside quote = .inside quote := by rw [step, if_pos hquote]
  rw [after, List.foldl_cons, hopen] at hafter
  obtain rfl : body = xs ++ ys := by simpa using hsplit
  refine regions_ne_nil State.noConfusion hafter 0 0 ys ?_
  have hregions := h.regions 0 0 []
  rwa [List.append_nil] at hregions

/-- An octet that is read on the outside, and that is no quote, stands before or after a
region, not in it. -/
theorem mem_of_after_eq_outside {quote b : UInt8} (hquote : isQuote quote = true)
    {front body back before tail : List UInt8}
    (h : Passes (.inside quote) (.inside quote) body) (hfront : after front = .outside)
    (hsplit : front ++ (quote :: body ++ [quote]) ++ back = before ++ b :: tail)
    (hbefore : after before = .outside) (hb : isQuote b = false) : b ∈ front ∨ b ∈ back := by
  have hne : b ≠ quote := by
    rintro rfl
    rw [hquote] at hb
    cases hb
  rw [List.append_assoc] at hsplit
  rcases List.append_eq_append_iff.1 hsplit with ⟨xs, rfl, hxs⟩ | ⟨xs, rfl, hxs⟩
  · rw [after_append_of_outside hfront] at hbefore
    cases xs with
    | nil => exact absurd (List.cons.inj hxs).1.symm hne
    | cons x xs =>
      obtain ⟨rfl, hrest⟩ : quote = x ∧ body ++ quote :: back = xs ++ b :: tail := by
        simpa using hxs
      rcases List.append_eq_append_iff.1 hrest with ⟨zs, rfl, hzs⟩ | ⟨zs, rfl, hzs⟩
      · cases zs with
        | nil => exact absurd (List.cons.inj hzs).1.symm hne
        | cons z zs =>
          obtain ⟨-, rfl⟩ : quote = z ∧ back = zs ++ b :: tail := by simpa using hzs
          exact .inr (by simp)
      · exact absurd hbefore (after_ne_outside hquote h rfl)
  · cases xs with
    | nil => exact absurd (List.cons.inj hxs).1 hne
    | cons x xs =>
      obtain ⟨rfl, -⟩ : b = x ∧ _ := List.cons.inj hxs
      exact .inl (by simp)

/-! ## octets that are no quotes -/

/-- Octets without quotes are passed over outside of regions. -/
theorem passes_of_bare {bs : List UInt8} (h : ∀ b ∈ bs, isQuote b = false) :
    Passes .outside .outside bs :=
  passes_of_forall fun b hb => passes_outside (h b hb)

/-- They open no region either. -/
theorem regions_append_of_bare {s : State} {xs ys : List UInt8}
    (hx : xs.foldl step s = .outside) (hy : ∀ b ∈ ys, isQuote b = false) (opened i : Nat) :
    regions opened s i (xs ++ ys) = regions opened s i xs := by
  induction xs generalizing s opened i with
  | nil =>
    obtain rfl : s = .outside := hx
    have h := (passes_of_bare hy).regions opened i []
    rwa [List.append_nil] at h
  | cons x xs ih =>
    rw [List.foldl_cons] at hx
    have hrest := fun opened => ih hx opened (i + 1)
    cases s with
    | outside =>
      cases hquote : isQuote x with
      | true => simpa [regions, step, hquote] using hrest i
      | false => simpa [regions, step, hquote] using hrest opened
    | inside quote =>
      by_cases hslash : x = backslash
      · simpa [regions, step, hslash] using hrest opened
      · by_cases hquote : x = quote
        · subst hquote
          simpa [regions, step, hslash] using hrest opened
        · simpa [regions, step, hslash, hquote] using hrest opened
    | hidden quote => exact hrest opened

/-- The octet that closes the region of a state is a quote. -/
def State.Opened (s : State) : Prop :=
  ∀ quote, s = .inside quote ∨ s = .hidden quote → isQuote quote = true

/-- A region that is open was opened by a quote, after one more octet. -/
theorem State.Opened.step {s : State} (h : s.Opened) (b : UInt8) : (step s b).Opened := by
  intro quote hquote
  cases s with
  | outside =>
    cases hb : isQuote b with
    | true =>
      obtain rfl : b = quote := by simpa [Quotation.step, hb] using hquote
      exact hb
    | false => simp [Quotation.step, hb] at hquote
  | inside q =>
    have hq : isQuote q = true := h q (.inl rfl)
    rw [Quotation.step] at hquote
    split at hquote
    · obtain rfl : q = quote := by simpa using hquote
      exact hq
    split at hquote
    · simp at hquote
    · obtain rfl : q = quote := by simpa using hquote
      exact hq
  | hidden q =>
    obtain rfl : q = quote := by simpa [Quotation.step] using hquote
    exact h q (.inr rfl)

/-- So it was after any number of octets. -/
theorem State.Opened.foldl {s : State} (h : s.Opened) (bs : List UInt8) :
    (bs.foldl Quotation.step s).Opened := by
  induction bs generalizing s with
  | nil => exact h
  | cons b bs ih => exact ih (h.step b)

/-- So it was in every text. -/
theorem opened_after (bs : List UInt8) : (after bs).Opened :=
  State.Opened.foldl (fun quote h => by simp at h) bs

/-- Octets that are no quotes close no region. -/
theorem after_eq_outside_of_bare {bs ys : List UInt8} (h : after (bs ++ ys) = .outside)
    (hys : ∀ b ∈ ys, isQuote b = false) : after bs = .outside := by
  induction ys generalizing bs with
  | nil => simpa using h
  | cons y ys ih =>
    have hnext : after (bs ++ [y]) = .outside :=
      ih (by simpa using h) fun b hb => hys b (by simp [hb])
    rw [after_concat] at hnext
    have hy : isQuote y = false := hys y (by simp)
    cases hs : after bs with
    | outside => rfl
    | inside quote =>
      have hquote : isQuote quote = true := opened_after bs quote (.inl hs)
      have hne : y ≠ quote := by
        rintro rfl
        rw [hy] at hquote
        cases hquote
      rw [hs, step] at hnext
      split at hnext
      · cases hnext
      · simp [hne] at hnext
    | hidden quote =>
      rw [hs] at hnext
      cases hnext

end Quotation

namespace Scan

open Quotation (regions passes_outside)

/-- Whether a state is outside of regions. -/
def State.isOutside : State → Bool
  | .outside _ => true
  | _ => false

/-- The regions that the search for the closing delimiter goes through before it
stops: one begins where it leaves the outside, and ends where it is back. -/
def tracked (closing : List UInt8) (opened : Nat) (s : State) (i : Nat) :
    List UInt8 → List (Nat × Nat)
  | [] => []
  | b :: bs =>
    match step closing s b with
    | none => []
    | some s' =>
      match s.isOutside, s'.isOutside with
      | true, false => tracked closing i s' (i + 1) bs
      | false, true => (opened, i + 1) :: tracked closing opened s' (i + 1) bs
      | _, _ => tracked closing opened s' (i + 1) bs

/-- The search tracks the regions of what it takes. -/
theorem tracked_of_closedAfter? {closing : List UInt8} {s : State} {bs : List UInt8} {n : Nat}
    (h : closedAfter? closing s bs = some n) (opened i : Nat) :
    tracked closing opened s i bs = regions opened s.quotation i (bs.take n) := by
  induction bs generalizing s n opened i with
  | nil => cases h
  | cons b bs ih =>
    rw [closedAfter?] at h
    cases hstep : step closing s b with
    | none =>
      obtain rfl : 1 = n := by simpa [hstep] using h
      rw [tracked, hstep]
      obtain ⟨rfl, hquote⟩ := step_eq_none_iff.1 hstep
      simp [regions, State.quotation, hquote]
    | some s' =>
      simp only [hstep] at h
      obtain ⟨m, hm, rfl⟩ := Option.map_eq_some_iff.1 h
      rw [tracked, hstep, List.take_succ_cons]
      have hrest := fun opened => ih hm opened (i + 1)
      cases moves_of_step hstep with
      | reveal quote b => exact hrest opened
      | hide quote =>
        simpa [State.isOutside, State.quotation, regions] using hrest opened
      | leave quote hb =>
        simpa [State.isOutside, State.quotation, regions, hb] using hrest opened
      | stay quote b hb hq =>
        simpa [State.isOutside, State.quotation, regions, hb, hq] using hrest opened
      | enter left b hquote =>
        simpa [State.isOutside, State.quotation, regions, hquote] using hrest i
      | restart left b hquote =>
        simpa [State.isOutside, State.quotation, regions, hquote] using hrest opened
      | advance left b hquote hleft =>
        simpa [State.isOutside, State.quotation, regions, hquote] using hrest opened

end Scan

end Stencil
