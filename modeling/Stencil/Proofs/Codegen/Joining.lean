import Stencil.Proofs.Codegen.Lexemes

/-!
# Stencil.Proofs.Codegen.Joining

Code that is put together of pieces. A round bracket goes on with no token, so code in
front of one has the tokens that it has alone, unless it has a comment
(`plainTokens?_append`). Code is `Complete` in itself if its brackets match, too. Put in
brackets, between other complete code, it is part of what is complete (`Complete.round`).
-/

namespace Stencil.Codegen

/-! ## tokens of code without comments -/

/-- The tokens of code in which no comment begins. -/
def plainTokens? : List Char → Option (List Token)
  | [] => some []
  | c :: cs =>
    if startsComment (c :: cs) then none
    else
      match lexeme? c cs with
      | none => none
      | some (tokens, rest) =>
        (plainTokens? (cs.drop (cs.length - rest.length))).map (tokens ++ ·)
termination_by cs => cs.length
decreasing_by simp only [List.length_cons, List.length_drop]; omega

section
variable {cs : List Char} {ts : List Token}

theorem startsComment_of_plainTokens? (h : plainTokens? cs = some ts) :
    startsComment cs = false := by
  cases cs with
  | nil => rfl
  | cons c cs =>
    rw [plainTokens?] at h
    split at h
    · cases h
    · next hcomment => exact eq_false_of_ne_true hcomment

/-- Code has the same tokens if comments are allowed for. -/
theorem tokensOf?_of_plainTokens? (h : plainTokens? cs = some ts) : tokensOf? cs = some ts := by
  fun_induction plainTokens? cs generalizing ts with
  | case1 =>
    rw [tokensOf?]
    exact h
  | case2 | case3 => cases h
  | case4 c cs hcomment front rest hlexeme ih =>
    obtain ⟨back, hback, rfl⟩ := Option.map_eq_some_iff.1 h
    rw [tokensOf?, hlexeme]
    dsimp only
    rw [ih hback, Option.map_some]

variable {x : Char} (hx : Divides x)
include hx

/-- In front of a character that goes on with no token, code has the tokens that it has
alone. -/
theorem plainTokens?_append (h : plainTokens? cs = some ts) (more : List Char) :
    plainTokens? (cs ++ x :: more) = (plainTokens? (x :: more)).map (ts ++ ·) := by
  fun_induction plainTokens? cs generalizing ts with
  | case1 =>
    obtain rfl := Option.some.inj h
    simp
  | case2 | case3 => cases h
  | case4 c cs hcomment front rest hlexeme ih =>
    obtain ⟨back, hback, rfl⟩ := Option.map_eq_some_iff.1 h
    have hcomment := eq_false_of_ne_true hcomment
    have hcomment' := startsComment_append hx (c :: cs) more
    rw [hcomment, List.cons_append] at hcomment'
    have hlexeme' := (lexeme?_eq_some_iff hcomment').2 (((lexeme?_eq_some_iff hcomment).1
      hlexeme).append hx (startsComment_of_plainTokens? hback) more)
    have hlen : (cs ++ x :: more).length - (rest ++ x :: more).length =
        cs.length - rest.length := by
      simp only [List.length_append]
      omega
    rw [List.cons_append, plainTokens?, if_neg (by simp [hcomment']), hlexeme']
    dsimp only
    rw [hlen, List.drop_append_of_le_length (Nat.sub_le _ _), ih hback, Option.map_map]
    simp only [List.append_assoc, Function.comp_def]

end

/-- A token of one character. -/
theorem plainTokens?_cons {c : Char} {cs : List Char} {ts : List Token}
    (hcomment : startsComment (c :: cs) = false) (h : Lexeme c cs ts cs) :
    plainTokens? (c :: cs) = (plainTokens? cs).map (ts ++ ·) := by
  rw [plainTokens?, if_neg (by simp [hcomment]), (lexeme?_eq_some_iff hcomment).2 h]
  dsimp only
  rw [Nat.sub_self, List.drop_zero]

/-! ## complete code -/

/-- Code is complete in itself: it has the tokens `ts` and no comment, and its brackets
match. -/
structure Complete (cs : List Char) (ts : List Token) : Prop where
  tokens : plainTokens? cs = some ts
  brackets : balanced [] ts = true

theorem complete_nil : Complete [] [] := ⟨by rw [plainTokens?], rfl⟩

/-- Whether some code is complete in itself. -/
def isComplete (code : String) : Bool := (plainTokens? code.toList).any (balanced [])

theorem exists_complete {code : String} (h : isComplete code = true) :
    ∃ ts, Complete code.toList ts := by
  cases htokens : plainTokens? code.toList with
  | none => simp [isComplete, htokens] at h
  | some ts => exact ⟨ts, htokens, by simpa [isComplete, htokens] using h⟩

/-- Brackets that match do not matter to those around them. -/
theorem balanced_append {inner : List Bracket} {ts : List Token} (h : balanced inner ts = true)
    (outer : List Bracket) (rest : List Token) :
    balanced (inner ++ outer) (ts ++ rest) = balanced outer rest := by
  fun_induction balanced inner ts with
  | case1 =>
    rw [List.isEmpty_iff.1 h]
    rfl
  | case2 inner b ts ih => exact ih h
  | case3 => cases h
  | case4 a inner b ts ih =>
    obtain ⟨hsame, h⟩ := Bool.and_eq_true_iff.1 h
    rw [List.cons_append, List.cons_append, balanced, hsame, Bool.true_and, ih h]
  | case5 inner t ts hopening hnone hclosing ih =>
    cases t with
    | opening b => exact absurd rfl (hopening b)
    | closing b =>
      cases inner with
      | nil => exact absurd rfl (hnone b rfl)
      | cons a inner => exact absurd rfl (hclosing a inner b rfl)
    | _ => simpa [balanced] using ih h

/-- Code in brackets between other code. -/
theorem Complete.round {front inner back : List Char} {fs is bs : List Token}
    (hfront : Complete front fs) (hinner : Complete inner is) (hback : Complete back bs) :
    Complete (front ++ '(' :: (inner ++ ')' :: back))
      (fs ++ .opening .round :: (is ++ .closing .round :: bs)) := by
  have hcomment : startsComment (inner ++ ')' :: back) = false := by
    rw [startsComment_append divides_closing, startsComment_of_plainTokens? hinner.tokens]
  constructor
  · rw [plainTokens?_append divides_opening hfront.tokens,
      plainTokens?_cons rfl (.bracket (by decide) (afterLiteral?_opening hcomment) rfl),
      plainTokens?_append divides_closing hinner.tokens,
      plainTokens?_cons rfl (.bracket (by decide) rfl rfl), hback.tokens]
    rfl
  · have hinner' : balanced [.round] (is ++ .closing .round :: bs) = true := by
      refine (balanced_append hinner.brackets [.round] _).trans ?_
      rw [balanced, hback.brackets]
      rfl
    exact (balanced_append hfront.brackets [] _).trans hinner'

/-- The mark of byte order belongs to no token. -/
theorem plainTokens?_byteOrderMark (cs : List Char) :
    plainTokens? (byteOrderMark :: cs) = none := by
  have hcomment : startsComment (byteOrderMark :: cs) = false := rfl
  rw [plainTokens?, if_neg (by simp [hcomment])]
  split
  · rfl
  · next ts rest hlexeme =>
    exfalso
    cases (lexeme?_eq_some_iff hcomment).1 hlexeme with
    | gap hgap => exact absurd hgap (by decide)
    | literal hgap hliteral =>
      rw [afterLiteral?_of_not_mem (by decide), if_neg (by decide)] at hliteral
      cases hliteral
    | bracket hgap hliteral hbracket => cases hbracket
    | mark hgap hliteral hbracket hmark =>
      rw [mark?, if_pos (by decide)] at hmark
      cases hmark
    | word hgap hliteral hbracket hmark hsigns hword =>
      exact absurd (isWordStart_of_afterWord? hword) (by decide +kernel)

theorem tokens?_of_complete {code : String} {ts : List Token} (h : Complete code.toList ts) :
    tokens? code = some ts := by
  have hmark : (code.toList.head? == some byteOrderMark) = false := by
    refine beq_eq_false_iff_ne.2 fun hhead => ?_
    obtain ⟨cs, hcs⟩ := List.head?_eq_some_iff.1 hhead
    have htokens := h.tokens
    rw [hcs, plainTokens?_byteOrderMark] at htokens
    cases htokens
  rw [tokens?, hmark, if_neg Bool.false_ne_true, tokensOf?_of_plainTokens? h.tokens]
  simp [h.brackets]

end Stencil.Codegen
