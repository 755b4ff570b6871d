import Stencil.Proofs.Template.Quotation

/-!
# Stencil.Proofs.Template.Closing

Where a marker closes. The machine that looks for the closing delimiter never
goes back, so it does not find every occurrence of the delimiter; this module
says which ones.

1. After any octets the machine has read, the part of the delimiter that it has
   matched stands at their end, outside of quoted regions (`Follows`).
2. So where it stops, the delimiter stands, and none of its octets is quoted:
   `exists_of_closedAfter?`.
3. An occurrence is not missed if it stands at the front or after an octet that
   is not in the delimiter, since nothing is matched there
   (`closedAfter?_le_of_fresh`), and no occurrence at all is missed if the
   delimiter is one octet repeated (`closedAfter?_le_of_replicate`).
-/

namespace Stencil.Scan

open Quotation (after after_concat BareAt)

/-! ## runs of the machine -/

/-- What a state knows of quoted regions. -/
def State.quotation : State → Quotation.State
  | .outside _ => .outside
  | .quoted quote => .inside quote
  | .hidden quote => .hidden quote

/-- What a step does that does not complete the delimiter. -/
inductive Moves (closing : List UInt8) : State → UInt8 → State → Prop where
  | reveal (quote b : UInt8) : Moves closing (.hidden quote) b (.quoted quote)
  | hide (quote : UInt8) : Moves closing (.quoted quote) backslash (.hidden quote)
  | leave (quote : UInt8) : quote ≠ backslash →
    Moves closing (.quoted quote) quote (.outside closing)
  | stay (quote b : UInt8) : b ≠ backslash → b ≠ quote →
    Moves closing (.quoted quote) b (.quoted quote)
  | enter (left : List UInt8) (b : UInt8) : isQuote b = true →
    Moves closing (.outside left) b (.quoted b)
  | restart (left : List UInt8) (b : UInt8) : isQuote b = false →
    Moves closing (.outside left) b (.outside closing)
  | advance (left : List UInt8) (b : UInt8) : isQuote b = false → left ≠ [] →
    Moves closing (.outside (b :: left)) b (.outside left)

theorem moves_of_step {closing : List UInt8} {s s' : State} {b : UInt8}
    (h : step closing s b = some s') : Moves closing s b s' := by
  cases s with
  | hidden quote =>
    obtain rfl : State.quoted quote = s' := by simpa [step] using h
    exact .reveal quote b
  | quoted quote =>
    by_cases hb : b = backslash
    · subst hb
      obtain rfl : State.hidden quote = s' := by simpa [step] using h
      exact .hide quote
    · by_cases hq : b = quote
      · subst hq
        obtain rfl : State.outside closing = s' := by simpa [step, hb] using h
        exact .leave b hb
      · obtain rfl : State.quoted quote = s' := by simpa [step, hb, hq] using h
        exact .stay quote b hb hq
  | outside left =>
    cases hquote : isQuote b with
    | true =>
      obtain rfl : State.quoted b = s' := by simpa [step, hquote] using h
      exact .enter left b hquote
    | false =>
      cases left with
      | nil =>
        obtain rfl : State.outside closing = s' := by simpa [step, hquote] using h
        exact .restart [] b hquote
      | cons next left =>
        by_cases hb : b = next
        · subst hb
          obtain ⟨hleft, rfl⟩ : left ≠ [] ∧ State.outside left = s' := by
            simpa [step, hquote] using h
          exact .advance left b hquote hleft
        · obtain rfl : State.outside closing = s' := by simpa [step, hquote, hb] using h
          exact .restart (next :: left) b hquote

/-- The delimiter is complete with its last octet, outside of quoted regions. -/
theorem step_eq_none_iff {closing : List UInt8} {s : State} {b : UInt8} :
    step closing s b = none ↔ s = .outside [b] ∧ isQuote b = false := by
  constructor
  · intro h
    cases s with
    | hidden quote => simp [step] at h
    | quoted quote =>
      simp only [step] at h
      split at h
      · cases h
      · split at h <;> cases h
    | outside left =>
      cases hquote : isQuote b with
      | true => simp [step, hquote] at h
      | false =>
        cases left with
        | nil => simp [step, hquote] at h
        | cons next left =>
          by_cases hb : b = next
          · subst hb
            obtain rfl : left = [] := by simpa [step, hquote] using h
            exact ⟨rfl, rfl⟩
          · simp [step, hquote, hb] at h
  · rintro ⟨rfl, hquote⟩
    simp [step, hquote]

/-- The machine follows quoted regions, whatever it has matched. -/
theorem quotation_step {closing : List UInt8} {s s' : State} {b : UInt8}
    (h : step closing s b = some s') : s'.quotation = Quotation.step s.quotation b := by
  cases moves_of_step h with
  | reveal quote b => rfl
  | hide quote => rfl
  | leave quote hb => simp [State.quotation, Quotation.step, hb]
  | stay quote b hb hq => simp [State.quotation, Quotation.step, hb, hq]
  | enter left b hquote => simp [State.quotation, Quotation.step, hquote]
  | restart left b hquote => simp [State.quotation, Quotation.step, hquote]
  | advance left b hquote hleft => simp [State.quotation, Quotation.step, hquote]

/-- The state after octets; nothing if the delimiter is complete before. -/
def run (closing : List UInt8) (s : State) (bs : List UInt8) : Option State :=
  bs.foldlM (step closing) s

@[simp] theorem run_nil (closing : List UInt8) (s : State) : run closing s [] = some s := rfl

theorem run_cons (closing : List UInt8) (s : State) (b : UInt8) (bs : List UInt8) :
    run closing s (b :: bs) = (step closing s b).bind fun s => run closing s bs := rfl

theorem run_append (closing : List UInt8) (s : State) (xs ys : List UInt8) :
    run closing s (xs ++ ys) = (run closing s xs).bind fun s => run closing s ys :=
  List.foldlM_append

/-- The machine stops at the octet that completes the delimiter. -/
theorem closedAfter?_eq_some_iff {closing : List UInt8} {s : State} {bs : List UInt8} {n : Nat} :
    closedAfter? closing s bs = some n ↔ ∃ before b rest s', bs = before ++ b :: rest ∧
      n = before.length + 1 ∧ run closing s before = some s' ∧ step closing s' b = none := by
  constructor
  · intro h
    induction bs generalizing s n with
    | nil => simp [closedAfter?] at h
    | cons c cs ih =>
      cases hstep : step closing s c with
      | none =>
        obtain rfl : 1 = n := by simpa [closedAfter?, hstep] using h
        exact ⟨[], c, cs, s, rfl, rfl, rfl, hstep⟩
      | some s₁ =>
        simp only [closedAfter?, hstep] at h
        obtain ⟨m, hm, rfl⟩ := Option.map_eq_some_iff.1 h
        obtain ⟨before, b, rest, s', rfl, rfl, hrun, hend⟩ := ih hm
        refine ⟨c :: before, b, rest, s', rfl, rfl, ?_, hend⟩
        rw [run_cons, hstep]
        exact hrun
  · rintro ⟨before, b, rest, s', rfl, rfl, hrun, hend⟩
    induction before generalizing s with
    | nil =>
      obtain rfl : s = s' := by simpa using hrun
      simp [closedAfter?, hend]
    | cons c before ih =>
      rw [run_cons] at hrun
      obtain ⟨s₁, hstep, hrest⟩ := Option.bind_eq_some_iff.1 hrun
      simp [closedAfter?, hstep, ih hrest]

theorem closedAfter?_eq_none_iff {closing : List UInt8} {s : State} {bs : List UInt8} :
    closedAfter? closing s bs = none ↔ run closing s bs ≠ none := by
  induction bs generalizing s with
  | nil => simp [closedAfter?]
  | cons b bs ih =>
    rw [run_cons, closedAfter?]
    cases step closing s b with
    | none => simp
    | some s' => simp [ih]

/-- Octets that a run does not get through hold the end of the marker. -/
theorem closedAfter?_of_run_eq_none {closing : List UInt8} {s : State} {bs : List UInt8}
    (h : run closing s bs = none) (rest : List UInt8) :
    ∃ n ≤ bs.length, closedAfter? closing s (bs ++ rest) = some n := by
  cases hn : closedAfter? closing s bs with
  | none => exact absurd h (closedAfter?_eq_none_iff.1 hn)
  | some n =>
    obtain ⟨before, b, after, s', rfl, rfl, hrun, hend⟩ := closedAfter?_eq_some_iff.1 hn
    refine ⟨before.length + 1, by simp, ?_⟩
    exact closedAfter?_eq_some_iff.2 ⟨before, b, after ++ rest, s', by simp, rfl, hrun, hend⟩

/-! ## what is matched -/

/-- The state `s` is one that the machine can be in after the octets `before`:
what it has matched stands at their end, outside of quoted regions. -/
structure Follows (closing before : List UInt8) (s : State) : Prop where
  quotation : s.quotation = after before
  matched : ∀ left, s = .outside left → left ≠ [] ∧ ∃ front matched,
    before = front ++ matched ∧ closing = matched ++ left ∧ after front = .outside ∧
      ∀ b ∈ matched, isQuote b = false

theorem follows_start {closing : List UInt8} (hne : closing ≠ []) :
    Follows closing [] (.outside closing) := by
  refine ⟨rfl, fun left h => ?_⟩
  obtain rfl : closing = left := by injection h
  exact ⟨hne, [], [], rfl, rfl, rfl, by simp⟩

theorem Follows.step {closing before : List UInt8} {s s' : State} {b : UInt8}
    (hne : closing ≠ []) (hs : Follows closing before s) (h : step closing s b = some s') :
    Follows closing (before ++ [b]) s' := by
  have hq : s'.quotation = after (before ++ [b]) := by
    rw [quotation_step h, hs.quotation, after_concat]
  refine ⟨hq, fun left hleft => ?_⟩
  subst hleft
  -- the machine is outside again and has matched nothing, or one octet more
  cases moves_of_step h with
  | leave quote hb => exact ⟨hne, before ++ [b], [], by simp, rfl, hq.symm, by simp⟩
  | restart left b hquote => exact ⟨hne, before ++ [b], [], by simp, rfl, hq.symm, by simp⟩
  | advance left b hquote hmore =>
    obtain ⟨-, front, matched, rfl, rfl, hfront, hbare⟩ := hs.matched (b :: left) rfl
    refine ⟨hmore, front, matched ++ [b], by simp, by simp, hfront, fun x hx => ?_⟩
    rcases List.mem_append.1 hx with hx | hx
    · exact hbare x hx
    · rwa [List.mem_singleton.1 hx]

theorem Follows.run {closing before bs : List UInt8} {s s' : State} (hne : closing ≠ [])
    (hs : Follows closing before s) (h : run closing s bs = some s') :
    Follows closing (before ++ bs) s' := by
  induction bs generalizing before s with
  | nil =>
    obtain rfl : s = s' := by simpa using h
    simpa using hs
  | cons b bs ih =>
    rw [run_cons] at h
    obtain ⟨s₁, hstep, hrest⟩ := Option.bind_eq_some_iff.1 h
    simpa using ih (hs.step hne hstep) hrest

/-! ## where the delimiter is found -/

/-- Where the machine stops the delimiter ends, and none of its octets is
quoted. -/
theorem exists_of_closedAfter? {closing bs : List UInt8} {n : Nat} (hne : closing ≠ [])
    (h : closedAfter? closing (.outside closing) bs = some n) :
    ∃ inner rest, bs = inner ++ closing ++ rest ∧ n = inner.length + closing.length ∧
      after inner = .outside ∧ ∀ b ∈ closing, isQuote b = false := by
  obtain ⟨before, b, rest, s, rfl, rfl, hrun, hend⟩ := closedAfter?_eq_some_iff.1 h
  obtain ⟨rfl, hquote⟩ := step_eq_none_iff.1 hend
  obtain ⟨-, front, matched, hbefore, hclosing, hfront, hbare⟩ :=
    ((follows_start hne).run hne hrun).matched [b] rfl
  rw [List.nil_append] at hbefore
  subst hbefore hclosing
  refine ⟨front, rest, by simp, by simp; omega, hfront, fun x hx => ?_⟩
  rcases List.mem_append.1 hx with hx | hx
  · exact hbare x hx
  · rwa [List.mem_singleton.1 hx]

/-- The machine does not get through what it still waits for. -/
theorem run_left_eq_none {closing left : List UInt8} (hne : left ≠ [])
    (hbare : ∀ b ∈ left, isQuote b = false) : run closing (.outside left) left = none := by
  induction left with
  | nil => contradiction
  | cons b left ih =>
    have hb : isQuote b = false := hbare b (by simp)
    rw [run_cons]
    by_cases hleft : left = []
    · subst hleft
      rw [step_eq_none_iff.2 ⟨rfl, hb⟩]
      rfl
    · have hstep : Scan.step closing (.outside (b :: left)) b = some (.outside left) := by
        simp [Scan.step, hb, hleft]
      rw [hstep]
      exact ih hleft fun x hx => hbare x (by simp [hx])

/-- An occurrence is not missed if what the machine still waits for in front of it
is a front part of the delimiter. -/
theorem closedAfter?_le_of_isPrefix {closing before : List UInt8} (hne : closing ≠ [])
    (hbefore : after before = .outside) (hbare : ∀ b ∈ closing, isQuote b = false)
    (hleft : ∀ front matched left, before = front ++ matched → closing = matched ++ left →
      left <+: closing) (rest : List UInt8) :
    ∃ n ≤ before.length + closing.length,
      closedAfter? closing (.outside closing) (before ++ closing ++ rest) = some n := by
  rw [← List.length_append]
  refine closedAfter?_of_run_eq_none ?_ rest
  rw [run_append]
  cases hrun : run closing (.outside closing) before with
  | none => rfl
  | some s =>
    have hs : Follows closing before s := (follows_start hne).run hne hrun
    cases s with
    | hidden quote => cases hs.quotation.trans hbefore
    | quoted quote => cases hs.quotation.trans hbefore
    | outside left =>
      obtain ⟨hne', front, matched, hfront, hclosing, -, -⟩ := hs.matched left rfl
      obtain ⟨more, hmore⟩ := hleft front matched left hfront hclosing
      have hnone : run closing (.outside left) left = none := by
        refine run_left_eq_none hne' fun b hb => hbare b ?_
        rw [hclosing]
        exact List.mem_append_right _ hb
      calc run closing (.outside left) closing
          = run closing (.outside left) (left ++ more) := by rw [hmore]
        _ = none := by rw [run_append, hnone]; rfl

/-- An occurrence is not missed at the front, or after an octet that is not in the
delimiter: nothing is matched there. -/
theorem closedAfter?_le_of_fresh {closing before : List UInt8} (hne : closing ≠ [])
    (hbefore : after before = .outside) (hbare : ∀ b ∈ closing, isQuote b = false)
    (hfresh : ∀ b, before.getLast? = some b → b ∉ closing) (rest : List UInt8) :
    ∃ n ≤ before.length + closing.length,
      closedAfter? closing (.outside closing) (before ++ closing ++ rest) = some n := by
  refine closedAfter?_le_of_isPrefix hne hbefore hbare (fun front matched left hfront hclosing => ?_)
    rest
  cases hlast : matched.getLast? with
  | none =>
    obtain rfl : matched = [] := List.getLast?_eq_none_iff.1 hlast
    rw [hclosing]
    exact List.prefix_refl _
  | some b =>
    have hb : b ∈ matched := List.mem_of_getLast? hlast
    have hbefore' : before.getLast? = some b := by
      rw [hfront, List.getLast?_append, hlast]
      rfl
    have hmem : b ∈ closing := by
      rw [hclosing]
      exact List.mem_append_left _ hb
    exact absurd hmem (hfresh b hbefore')

/-- No occurrence is missed if the delimiter is one octet repeated. -/
theorem closedAfter?_le_of_replicate {before : List UInt8} {c : UInt8} {k : Nat} (hk : k ≠ 0)
    (hbefore : after before = .outside) (hc : isQuote c = false) (rest : List UInt8) :
    ∃ n ≤ before.length + k, closedAfter? (List.replicate k c) (.outside (List.replicate k c))
      (before ++ List.replicate k c ++ rest) = some n := by
  have hne : List.replicate k c ≠ [] := by simpa using hk
  have hbare : ∀ b ∈ List.replicate k c, isQuote b = false := by
    intro b hb
    rwa [List.eq_of_mem_replicate hb]
  have hlen : before.length + (List.replicate k c).length = before.length + k := by simp
  rw [← hlen]
  refine closedAfter?_le_of_isPrefix hne hbefore hbare (fun front matched left _ hclosing => ?_) rest
  have hleft : left = List.replicate left.length c :=
    List.eq_replicate_iff.2 ⟨rfl, fun b hb => List.eq_of_mem_replicate (n := k) (by
      rw [hclosing]
      exact List.mem_append_right _ hb)⟩
  have hle : left.length ≤ k := by
    have hlength := congrArg List.length hclosing
    simp only [List.length_replicate, List.length_append] at hlength
    omega
  rw [hleft]
  exact ⟨List.replicate (k - left.length) c, by simp; omega⟩

/-- A marker whose inner octets are outside of regions at their end, hold no bare
occurrence of the delimiter and do not end in an octet of it closes right after
them. -/
theorem closedAfter?_of_inner {closing inner : List UInt8} (hne : closing ≠ [])
    (hbare : ∀ b ∈ closing, isQuote b = false) (hinner : after inner = .outside)
    (hnone : ∀ i, ¬ BareAt closing inner i)
    (hlast : ∀ b, inner.getLast? = some b → b ∉ closing) (rest : List UInt8) :
    closedAfter? closing (.outside closing) (inner ++ closing ++ rest) =
      some (inner.length + closing.length) := by
  obtain ⟨n, hle, hn⟩ := closedAfter?_le_of_fresh hne hinner hbare hlast rest
  obtain ⟨front, back, heq, rfl, hfront, -⟩ := exists_of_closedAfter? hne hn
  have hfound : front <+: inner ++ closing ++ rest := by
    rw [heq, List.append_assoc]
    exact List.prefix_append _ _
  have hwhole : inner <+: inner ++ closing ++ rest := by
    rw [List.append_assoc]
    exact List.prefix_append _ _
  obtain ⟨middle, rfl⟩ : front <+: inner :=
    List.prefix_of_prefix_length_le hfound hwhole (by omega)
  have htail : middle ++ (closing ++ rest) = closing ++ back := by
    simp only [List.append_assoc] at heq
    exact List.append_cancel_left heq
  -- were there octets between the end that is found and the delimiter, they would hold the
  -- delimiter or end in an octet of it
  rcases List.append_eq_append_iff.1 htail with ⟨more, hclosing, -⟩ | ⟨more, hmiddle, -⟩
  · cases hm : middle.getLast? with
    | none =>
      obtain rfl : middle = [] := List.getLast?_eq_none_iff.1 hm
      simpa using hn
    | some b =>
      have hb : (front ++ middle).getLast? = some b := by
        rw [List.getLast?_append, hm]
        rfl
      refine absurd ?_ (hlast b hb)
      rw [hclosing]
      exact List.mem_append_left _ (List.mem_of_getLast? hm)
  · refine absurd ?_ (hnone front.length)
    rw [hmiddle, ← List.append_assoc]
    exact Quotation.bareAt_append hfront hbare

end Stencil.Scan
