import Stencil.Proofs.Script.Continuation
import Stencil.Proofs.Script.Written

/-!
# Stencil.Proofs.Script.Remainder

What may follow. An expression is read in front of some tokens just if it is derived from
those before them and the first of them cannot go on with it (`reads_expression_iff`). So a
statement looks at one token after it at most, and it is read as before in front of others
if these begin with the same token, or with one that ends every statement, or are none
(`Builds.exists_front`).
-/

namespace Stencil.Script.Parse

/-! ## expressions -/

/-- What is known of the tokens `r` after a phrase at the front of `ts`: they do not go on
with it. -/
def Phrase.Ended : (p : Phrase) → (ts r : List Token) → Prop
  | .expression, _, r => Next EndsExpression r
  | .binary _, _, r | .unary, _, r | .postfixed, _, r | .postfixRest _, _, r => Next EndsOperand r
  | .binaryRest _ _, ts, r => Next EndsOperand ts → Next EndsOperand r
  | .items _, _, _ | .entries, _, _ | .entry, _, _ | .primary, _, _ => True

theorem Reads.ended {p : Phrase} {ts r : List Token} {v : p.Value} (h : Reads p ts v r) :
    p.Ended ts r := by
  induction h with
  | plain hcondition hnext ih =>
    obtain ⟨front, -, hderived⟩ := hcondition.derived
    have hweaker := (hderived (Nat.zero_le _)).2
    intro t ht
    refine ⟨ih t ht, ?_, hnext t ht⟩
    refine Option.eq_none_iff_forall_ne_some.2 fun found hop => ?_
    obtain ⟨op, n⟩ := found
    obtain ⟨p, level, -, rfl, -⟩ := binaryOp?_eq_some_iff.1 hop
    exact Nat.not_succ_le_zero level (hweaker t ht op _ hop)
  | conditional hcondition hyes hno ih ih₁ ih₂ => exact ih₂
  | binary hleft hrest ih ih₁ => exact ih₁ ih
  | stop hnext => exact id
  | operator hop hlt hright hrest ih ih₁ => exact fun _ => ih₁ ih
  | operand hop hoperand ih => exact ih
  | sign hop hoperand ih => exact ih
  | postfixed hprimary hrest ih ih₁ => exact ih₁
  | bare hnext => exact hnext
  | member hrest ih => exact ih
  | index hkey hrest ih ih₁ => exact ih₁
  | call hargs hrest ih ih₁ => exact ih₁
  | _ => trivial

/-- An expression is read up to a token that cannot go on with it. -/
theorem reads_expression_iff {ts r : List Token} {e : Expr} :
    Reads .expression ts e r ↔ ∃ front, ts = front ++ r ∧
      Derives .expression (front.map Token.tok) e ∧ Next EndsExpression r := by
  constructor
  · intro h
    obtain ⟨front, rfl, hderived⟩ := h.derived
    exact ⟨front, rfl, hderived, h.ended⟩
  · rintro ⟨front, rfl, hderives, hends⟩
    exact hderives.readsBack rfl hends

/-! ## statements -/

/-- Other tokens that a statement is read in front of as it is in front of `r`. -/
def Alike (r r' : List Token) : Prop :=
  Stops r' ∨ r'.head?.map Token.tok = r.head?.map Token.tok

section
variable {r r' r₀ : List Token} {P : Tok → Prop}

theorem alike_cons (t : Token) (ts ts' : List Token) : Alike (t :: ts) (t :: ts') := .inr rfl

theorem Alike.append (h : Alike r r') (front : List Token) : Alike (front ++ r) (front ++ r') := by
  cases front with
  | nil => exact h
  | cons t front => exact alike_cons t _ _

/-- A condition on the next token that is met by all tokens that end statements. -/
theorem Next.alike (h : Next P r) (halike : Alike r r') (hemit : ∀ index, P (.emit index))
    (hbrace : P (.punct .rbrace)) (hparen : P (.punct .rparen)) : Next P r' := by
  intro t ht
  obtain hstops | hsame := halike
  · obtain ⟨index, htok⟩ | htok | htok := Tok.cases_of_ends (hstops t ht)
    · exact htok ▸ hemit index
    · exact htok ▸ hbrace
    · exact htok ▸ hparen
  · rw [ht, Option.map_some] at hsame
    obtain ⟨t', ht', htok⟩ := Option.map_eq_some_iff.1 hsame.symm
    exact htok ▸ h t' ht'

/-- What follows an expression. -/
theorem Reads.exists_front {ts : List Token} {e : Expr} (h : Reads .expression ts e r) :
    ∃ front, ts = front ++ r ∧ front ≠ [] ∧
      ∀ r', Alike r r' → Reads .expression (front ++ r') e r' := by
  obtain ⟨front, rfl, hderives, hends⟩ := reads_expression_iff.1 h
  refine ⟨front, rfl, fun hnil => ?_, fun r' halike => ?_⟩
  · obtain ⟨tok, rest, htoks, -⟩ := hderives.begins
    rw [hnil] at htoks
    cases htoks
  · refine reads_expression_iff.2 ⟨front, rfl, hderives, ?_⟩
    exact hends.alike halike (by simp [EndsExpression, EndsOperand, binaryOp?])
      (endsExpression_mark (by simp)) (endsExpression_mark (by simp))

/-- A semicolon that may stand after a statement, or not. -/
theorem exists_of_skipSemicolon (h : (skipSemicolon r₀).1 = r) :
    ∃ last, r₀ = last ++ r ∧ ∀ r', Alike r r' → Alike r₀ (last ++ r') ∧
      (skipSemicolon (last ++ r')).1 = r' := by
  by_cases hnext : Next (· ≠ .punct .semicolon) r₀
  · obtain rfl : r₀ = r := (skipSemicolon_of_next hnext).symm.trans h
    refine ⟨[], rfl, fun r' halike => ⟨halike, skipSemicolon_of_next ?_⟩⟩
    exact hnext.alike halike (by simp) (by simp) (by simp)
  · cases r₀ with
    | nil => exact absurd (next_nil _) hnext
    | cons t r₀ =>
      obtain ⟨tok, o⟩ := t
      obtain rfl : tok = .punct .semicolon := by simpa using hnext
      obtain rfl : r₀ = r := h
      exact ⟨[⟨.punct .semicolon, o⟩], rfl, fun r' _ => ⟨alike_cons _ _ _, rfl⟩⟩

end

theorem OpensExpression.alike {tok : Tok} {ts ts' : List Token} (h : OpensExpression tok ts)
    (halike : Alike ts ts') : OpensExpression tok ts' := by
  cases tok with
  | ident word => exact ⟨h.1, h.2.alike halike (by simp [assignOp?]) rfl rfl⟩
  | emit index => exact h
  | number x => trivial
  | string s => trivial
  | punct p =>
    cases p with
    | lbrace => exact h
    | semicolon => exact h
    | rbrace => exact h
    | _ => trivial

/-- **What follows a clause.** It is read in front of other tokens that are alike. -/
theorem Builds.exists_front {c : Clause} {ts r : List Token} {v : c.Value} (h : Builds c ts v r) :
    ∃ front, ts = front ++ r ∧ ∀ r', Alike r r' → Builds c (front ++ r') v r' := by
  induction h with
  | @emit r index o => exact ⟨[⟨.emit index, o⟩], rfl, fun r' _ => .emit⟩
  | @empty r o => exact ⟨[⟨.punct .semicolon, o⟩], rfl, fun r' _ => .empty⟩
  | @block ts r body o₁ o₂ hbody ih =>
    obtain ⟨front, rfl, hbuilds⟩ := ih
    refine ⟨⟨.punct .lbrace, o₁⟩ :: (front ++ [⟨.punct .rbrace, o₂⟩]), by simp, fun r' _ => ?_⟩
    have hblock : Builds .statement (⟨.punct .lbrace, o₁⟩ :: (front ++ ⟨.punct .rbrace, o₂⟩ :: r'))
        (.block body) r' :=
      .block (hbuilds _ (alike_cons _ _ _))
    simpa using hblock
  | @branch ts r₁ r word e yes o o₁ o₂ hword hread hyes helse ih =>
    obtain ⟨inner, rfl, -, hinner⟩ := hread.exists_front
    obtain ⟨front, rfl, hbuilds⟩ := ih
    refine ⟨⟨.ident word, o⟩ :: ⟨.punct .lparen, o₁⟩ :: (inner ++ ⟨.punct .rparen, o₂⟩ :: front),
      by simp, fun r' halike => ?_⟩
    have hnone := (eatKeyword?_eq_none_iff.1 helse).alike halike (by simp) (by simp) (by simp)
    have hbranch : Builds .statement (⟨.ident word, o⟩ :: ⟨.punct .lparen, o₁⟩ ::
        (inner ++ ⟨.punct .rparen, o₂⟩ :: (front ++ r'))) (.branch e yes none) r' :=
      .branch hword (hinner _ (alike_cons _ _ _)) (hbuilds r' halike)
        (eatKeyword?_eq_none_iff.2 hnone)
    simpa using hbranch
  | @branchElse ts r₁ r₂ r word other e yes no o o₁ o₂ o₃ hword hread hyes helse hno ih ih₁ =>
    obtain ⟨inner, rfl, -, hinner⟩ := hread.exists_front
    obtain ⟨front, rfl, hbuilds⟩ := ih
    obtain ⟨back, rfl, hbuilds₁⟩ := ih₁
    refine ⟨⟨.ident word, o⟩ :: ⟨.punct .lparen, o₁⟩ :: (inner ++ ⟨.punct .rparen, o₂⟩ ::
      (front ++ ⟨.ident other, o₃⟩ :: back)), by simp, fun r' halike => ?_⟩
    have hbranch : Builds .statement (⟨.ident word, o⟩ :: ⟨.punct .lparen, o₁⟩ ::
        (inner ++ ⟨.punct .rparen, o₂⟩ :: (front ++ ⟨.ident other, o₃⟩ :: (back ++ r'))))
        (.branch e yes (some no)) r' :=
      .branchElse hword (hinner _ (alike_cons _ _ _)) (hbuilds _ (alike_cons _ _ _)) helse
        (hbuilds₁ r' halike)
    simpa using hbranch
  | @loop before ts r₁ r word x kind e body o o₁ o₂ o₃ o₄ hword hbefore hx hread hbody ih =>
    obtain ⟨inner, rfl, -, hinner⟩ := hread.exists_front
    obtain ⟨front, rfl, hbuilds⟩ := ih
    refine ⟨⟨.ident word, o⟩ :: ⟨.punct .lparen, o₁⟩ :: (before ++ ⟨.ident x, o₂⟩ ::
      ⟨.ident kind.word, o₃⟩ :: (inner ++ ⟨.punct .rparen, o₄⟩ :: front)), by simp,
      fun r' halike => ?_⟩
    have hloop : Builds .statement (⟨.ident word, o⟩ :: ⟨.punct .lparen, o₁⟩ ::
        (before ++ ⟨.ident x, o₂⟩ :: ⟨.ident kind.word, o₃⟩ ::
          (inner ++ ⟨.punct .rparen, o₄⟩ :: (front ++ r')))) (kind.loop x e body) r' :=
      .loop hword hbefore hx (hinner _ (alike_cons _ _ _)) (hbuilds r' halike)
    simpa using hloop
  | @declare r₀ r word x o o₁ hword hx hnext hend =>
    obtain ⟨last, rfl, hlast⟩ := exists_of_skipSemicolon hend
    refine ⟨⟨.ident word, o⟩ :: ⟨.ident x, o₁⟩ :: last, rfl, fun r' halike => ?_⟩
    obtain ⟨halike', hskip⟩ := hlast r' halike
    exact .declare hword hx (hnext.alike halike' (by simp) (by simp) (by simp)) hskip
  | @declareAs ts r₀ r word x e o o₁ o₂ hword hx hread hend =>
    obtain ⟨inner, rfl, -, hinner⟩ := hread.exists_front
    obtain ⟨last, rfl, hlast⟩ := exists_of_skipSemicolon hend
    refine ⟨⟨.ident word, o⟩ :: ⟨.ident x, o₁⟩ :: ⟨.punct .assign, o₂⟩ :: (inner ++ last),
      by simp, fun r' halike => ?_⟩
    obtain ⟨halike', hskip⟩ := hlast r' halike
    have hdeclare : Builds .statement (⟨.ident word, o⟩ :: ⟨.ident x, o₁⟩ ::
        ⟨.punct .assign, o₂⟩ :: (inner ++ (last ++ r'))) (.declare x (some e)) r' :=
      .declareAs hword hx (hinner _ halike') hskip
    simpa using hdeclare
  | @assign t ts r₀ r x op e o hx hop hread hend =>
    obtain ⟨inner, rfl, -, hinner⟩ := hread.exists_front
    obtain ⟨last, rfl, hlast⟩ := exists_of_skipSemicolon hend
    refine ⟨⟨.ident x, o⟩ :: t :: (inner ++ last), by simp, fun r' halike => ?_⟩
    obtain ⟨halike', hskip⟩ := hlast r' halike
    simpa using Builds.assign (o := o) hx hop (hinner _ halike') hskip
  | @expr t ts r₀ r e hopens hread hend =>
    obtain ⟨inner, hts, hne, hinner⟩ := hread.exists_front
    obtain ⟨t', inner, rfl⟩ := List.exists_cons_of_ne_nil hne
    obtain ⟨rfl, rfl⟩ := List.cons.inj hts
    obtain ⟨last, rfl, hlast⟩ := exists_of_skipSemicolon hend
    refine ⟨t :: (inner ++ last), by simp, fun r' halike => ?_⟩
    obtain ⟨halike', hskip⟩ := hlast r' halike
    have hread' := hinner _ halike'
    have hopens' := hopens.alike (halike'.append inner)
    simpa using Builds.expr hopens' hread' hskip
  | done => exact ⟨[], rfl, fun r' _ => .done⟩
  | next hs hbody ih ih₁ =>
    obtain ⟨back, rfl, hbuilds₁⟩ := ih₁
    obtain ⟨front, rfl, hbuilds⟩ := ih
    refine ⟨front ++ back, by simp, fun r' halike => ?_⟩
    simpa using Builds.next (hbuilds _ (halike.append back)) (hbuilds₁ r' halike)

end Stencil.Script.Parse
