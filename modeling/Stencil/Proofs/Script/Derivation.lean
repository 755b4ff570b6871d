import Stencil.Proofs.Script.Grammar

/-!
# Stencil.Proofs.Script.Derivation

The parser of expressions reads just what the grammar derives.

* What is read is derived (`Reads.derived`). A loop of the parser goes on with what it
  has read so far, so what it reads is derived from whatever that was derived from. For
  the binary operators one has to know besides that the operator that comes next binds
  no more tightly than those that were taken.
* What is derived is read, in front of anything that cannot go on with it
  (`Derives.readsBack`). Here a left operand is at hand before the operator is seen, so
  it has to be read in front of any way to go on with it.

Since the parser is a function, tokens derive at most one tree.
-/

namespace Stencil.Script.Parse

/-- Whether a token is no binary operator of a level above `n`. -/
def Weaker (n : Nat) (tok : Tok) : Prop :=
  ∀ op level, binaryOp? tok = some (op, level) → level ≤ n

/-- No binary operator is of a level above the last one. -/
theorem weaker_levels {n : Nat} (h : levels ≤ n) (tok : Tok) : Weaker n tok := by
  intro op level hop
  obtain ⟨p, l, -, rfl, hmem⟩ := binaryOp?_eq_some_iff.1 hop
  have hlt := lt_levels hmem
  omega

theorem Weaker.imp {n m : Nat} {tok : Tok} (h : Weaker n tok) (hle : n ≤ m) : Weaker m tok :=
  fun op level hop => Nat.le_trans (h op level hop) hle

/-! ## what is read is derived -/

/-- What is known of the tokens `toks` that were read at the front of `ts` as a phrase
with the tree `v`, with `r` left. -/
def Phrase.Derived : (p : Phrase) → (ts : List Token) → p.Value → (r : List Token) →
    (toks : List Tok) → Prop
  | .expression, _, e, _, toks => Derives .expression toks e
  | .binary min, _, e, r, toks =>
    min ≤ levels → Derives (.binary min) toks e ∧ Next (Weaker min) r
  | .binaryRest min left, ts, e, r, toks =>
    ∀ {front : List Tok} {level : Nat}, min ≤ level → Derives (.binary level) front left →
      Next (Weaker (level + 1)) ts → Derives (.binary min) (front ++ toks) e ∧ Next (Weaker min) r
  | .unary, _, e, _, toks => Derives .unary toks e
  | .postfixed, _, e, _, toks => Derives .postfixed toks e
  | .postfixRest e, _, e', _, toks =>
    ∀ {front : List Tok}, Derives .postfixed front e → Derives .postfixed (front ++ toks) e'
  | .items close, _, es, _, toks =>
    ∃ inner, toks = inner ++ [.punct close] ∧ Derives .items inner es
  | .entries, _, es, _, toks =>
    ∃ inner, toks = inner ++ [.punct .rbrace] ∧ Derives .entries inner es
  | .entry, _, named, _, toks => Derives .entry toks named
  | .primary, _, e, _, toks => Derives .primary toks e

/-- What is read is derived. -/
theorem Reads.derived {p : Phrase} {ts r : List Token} {v : p.Value} (h : Reads p ts v r) :
    ∃ front, ts = front ++ r ∧ p.Derived ts v r (front.map Token.tok) := by
  induction h with
  | plain hcondition hnext ih =>
    obtain ⟨front, rfl, hderived⟩ := ih
    exact ⟨front, rfl, .plain (hderived (Nat.zero_le _)).1⟩
  | @conditional ts r₁ r₂ r condition yes no o₁ o₂ hcondition hyes hno ih ih₁ ih₂ =>
    obtain ⟨front, rfl, hderived⟩ := ih
    obtain ⟨mid, rfl, hderived₁⟩ := ih₁
    obtain ⟨back, rfl, hderived₂⟩ := ih₂
    refine ⟨front ++ ⟨.punct .question, o₁⟩ :: (mid ++ ⟨.punct .colon, o₂⟩ :: back), by simp, ?_⟩
    simp only [List.map_append, List.map_cons]
    exact .conditional (hderived (Nat.zero_le _)).1 hderived₁ hderived₂
  | binary hleft hrest ih ih₁ =>
    obtain ⟨front, rfl, hderived⟩ := ih
    obtain ⟨back, rfl, hderived₁⟩ := ih₁
    refine ⟨front ++ back, by simp, fun hmin => ?_⟩
    rw [List.map_append]
    exact hderived₁ hmin (.unary hderived) fun t _ => weaker_levels (Nat.le_succ _) t.tok
  | @stop r left min hnext =>
    refine ⟨[], rfl, fun {front level} hmin hfront _ => ⟨?_, hnext⟩⟩
    rw [List.map_nil, List.append_nil]
    exact hfront.loosen hmin
  | @operator t ts r r' left right e op n min hop hlt hright hrest ih ih₁ =>
    obtain ⟨p, l, htok, rfl, hmem⟩ := binaryOp?_eq_some_iff.1 hop
    obtain ⟨front, rfl, hderived⟩ := ih
    obtain ⟨back, rfl, hderived₁⟩ := ih₁
    obtain ⟨hfront, hnext⟩ := hderived (lt_levels hmem)
    refine ⟨t :: front ++ back, by simp, fun {left' level} hmin hleft hweaker => ?_⟩
    have hle : l + 1 ≤ level + 1 := next_cons.1 hweaker op (l + 1) hop
    have htree := Derives.operator hmem (hleft.loosen (Nat.le_of_succ_le_succ hle)) hfront
    have hgoal := hderived₁ (Nat.le_of_lt_succ hlt) htree hnext
    rw [List.map_append, List.map_cons, htok, ← List.append_assoc]
    exact hgoal
  | operand hop hoperand ih =>
    obtain ⟨front, hfront, hderived⟩ := ih
    exact ⟨front, hfront, .operand hderived⟩
  | @sign t ts r e op hop hoperand ih =>
    obtain ⟨p, htok, hmem⟩ := unaryOp?_eq_some_iff.1 hop
    obtain ⟨front, rfl, hderived⟩ := ih
    refine ⟨t :: front, rfl, ?_⟩
    rw [List.map_cons, htok]
    exact .sign hmem hderived
  | postfixed hprimary hrest ih ih₁ =>
    obtain ⟨front, rfl, hderived⟩ := ih
    obtain ⟨back, rfl, hderived₁⟩ := ih₁
    refine ⟨front ++ back, by simp, ?_⟩
    rw [List.map_append]
    exact hderived₁ (.primary hderived)
  | @bare r e hnext =>
    refine ⟨[], rfl, fun {front} hfront => ?_⟩
    rw [List.map_nil, List.append_nil]
    exact hfront
  | @member ts r e e' name o₁ o₂ hrest ih =>
    obtain ⟨back, rfl, hderived⟩ := ih
    refine ⟨⟨.punct .dot, o₁⟩ :: ⟨.ident name, o₂⟩ :: back, rfl, fun {front} hfront => ?_⟩
    have hmember : Derives .postfixed (front ++ [.punct .dot, .ident name]) (.member e name) :=
      .member hfront
    have hgoal := hderived hmember
    rw [List.append_assoc] at hgoal
    exact hgoal
  | @index ts r r' e e' key o₁ o₂ hkey hrest ih ih₁ =>
    obtain ⟨inner, rfl, hderived⟩ := ih
    obtain ⟨back, rfl, hderived₁⟩ := ih₁
    refine ⟨⟨.punct .lbracket, o₁⟩ :: (inner ++ ⟨.punct .rbracket, o₂⟩ :: back), by simp,
      fun {front} hfront => ?_⟩
    have hgoal := hderived₁ (Derives.index hfront hderived)
    simpa using hgoal
  | @call ts r r' e e' args o hargs hrest ih ih₁ =>
    obtain ⟨inner, rfl, toks, htoks, hderived⟩ := ih
    obtain ⟨back, rfl, hderived₁⟩ := ih₁
    refine ⟨⟨.punct .lparen, o⟩ :: (inner ++ back), by simp, fun {front} hfront => ?_⟩
    have hgoal := hderived₁ (Derives.call hfront hderived)
    simpa [htoks] using hgoal
  | @noItems r close o => exact ⟨[⟨.punct close, o⟩], rfl, [], rfl, .noItems⟩
  | @lastItem t ts r e close o hclose hcomma hitem ih =>
    obtain ⟨front, hfront, hderived⟩ := ih
    refine ⟨front ++ [⟨.punct close, o⟩], by simp [hfront], front.map Token.tok, by simp, ?_⟩
    exact .lastItem hderived
  | @item t ts r r' e es close o hclose hitem hrest ih ih₁ =>
    obtain ⟨front, hfront, hderived⟩ := ih
    obtain ⟨back, rfl, toks, htoks, hderived₁⟩ := ih₁
    refine ⟨front ++ ⟨.punct .comma, o⟩ :: back, by simp [hfront],
      front.map Token.tok ++ .punct .comma :: toks, by simp [htoks], ?_⟩
    exact .item hderived hderived₁
  | @noEntries r o => exact ⟨[⟨.punct .rbrace, o⟩], rfl, [], rfl, .noEntries⟩
  | @lastEntry t ts r entry o hclose hentry ih =>
    obtain ⟨front, hfront, hderived⟩ := ih
    refine ⟨front ++ [⟨.punct .rbrace, o⟩], by simp [hfront], front.map Token.tok, by simp, ?_⟩
    exact .lastEntry hderived
  | @entry t ts r r' entry es o hclose hentry hrest ih ih₁ =>
    obtain ⟨front, hfront, hderived⟩ := ih
    obtain ⟨back, rfl, toks, htoks, hderived₁⟩ := ih₁
    refine ⟨front ++ ⟨.punct .comma, o⟩ :: back, by simp [hfront],
      front.map Token.tok ++ .punct .comma :: toks, by simp [htoks], ?_⟩
    exact .entry hderived hderived₁
  | @short t r key hkey hnext => exact ⟨[t], rfl, .short (entryKey?_eq_some_iff.1 hkey)⟩
  | @full t ts r key value o hkey hvalue ih =>
    obtain ⟨front, rfl, hderived⟩ := ih
    exact ⟨t :: ⟨.punct .colon, o⟩ :: front, rfl, .full (entryKey?_eq_some_iff.1 hkey) hderived⟩
  | @number r x o => exact ⟨[⟨.number x, o⟩], rfl, .number x⟩
  | @string r s o => exact ⟨[⟨.string s, o⟩], rfl, .string s⟩
  | @ident r name o hname => exact ⟨[⟨.ident name, o⟩], rfl, .name hname⟩
  | @constant r name k value o hk hvalue =>
    exact ⟨[⟨.ident name, o⟩], rfl, .constant (mem_constants_iff.2 ⟨k, hk, hvalue⟩)⟩
  | @parens ts r e o₁ o₂ hinner ih =>
    obtain ⟨inner, rfl, hderived⟩ := ih
    refine ⟨⟨.punct .lparen, o₁⟩ :: (inner ++ [⟨.punct .rparen, o₂⟩]), by simp, ?_⟩
    rw [List.map_cons, List.map_append]
    exact .parens hderived
  | @array ts r es o hitems ih =>
    obtain ⟨front, rfl, toks, htoks, hderived⟩ := ih
    refine ⟨⟨.punct .lbracket, o⟩ :: front, rfl, ?_⟩
    rw [List.map_cons, htoks]
    exact .array hderived
  | @object ts r es o hentries ih =>
    obtain ⟨front, rfl, toks, htoks, hderived⟩ := ih
    refine ⟨⟨.punct .lbrace, o⟩ :: front, rfl, ?_⟩
    rw [List.map_cons, htoks]
    exact .object hderived

/-! ## what is derived is read -/

/-- Whether a token cannot go on with an operand. -/
def EndsOperand (tok : Tok) : Prop :=
  tok ≠ .punct .dot ∧ tok ≠ .punct .lbracket ∧ tok ≠ .punct .lparen

/-- Whether a token cannot go on with an expression. -/
def EndsExpression (tok : Tok) : Prop :=
  EndsOperand tok ∧ binaryOp? tok = none ∧ tok ≠ .punct .question

/-- A mark that separates expressions or closes a bracket ends the expression before it. -/
theorem endsExpression_mark {p : Punct}
    (h : p ∈ [.comma, .colon, .semicolon, .rparen, .rbracket, .rbrace]) :
    EndsExpression (.punct p) := by
  simp only [List.mem_cons, List.not_mem_nil, or_false] at h
  obtain rfl | rfl | rfl | rfl | rfl | rfl := h <;>
    simp [EndsExpression, EndsOperand, binaryOp?]

/-- How the tokens `ts` are read that derive `v`: in front of anything that cannot go on
with them. What can be an operand is read in front of any way to go on with it. -/
def Category.ReadsBack : (c : Category) → c.Value → (ts : List Token) → Prop
  | .expression, e, ts => ∀ {r : List Token}, Next EndsExpression r →
    Reads .expression (ts ++ r) e r
  | .binary level, e, ts => ∀ {min : Nat} {r r' : List Token} {e' : Expr}, min ≤ level →
    Next EndsOperand r → Next (Weaker (level + 1)) r → Reads (.binaryRest min e) r e' r' →
    Reads (.binary min) (ts ++ r) e' r'
  | .unary, e, ts => ∀ {r : List Token}, Next EndsOperand r → Reads .unary (ts ++ r) e r
  | .postfixed, e, ts => ∀ {r r' : List Token} {e' : Expr}, Reads (.postfixRest e) r e' r' →
    Reads .postfixed (ts ++ r) e' r'
  | .primary, e, ts => ∀ r : List Token, Reads .primary (ts ++ r) e r
  | .items, es, ts => ∀ {close : Punct}, close ∈ [.rparen, .rbracket] → ∀ o r,
    Reads (.items close) (ts ++ ⟨.punct close, o⟩ :: r) es r
  | .entries, es, ts => ∀ o r, Reads .entries (ts ++ ⟨.punct .rbrace, o⟩ :: r) es r
  | .entry, named, ts => ∀ {r : List Token}, Next (· ∈ [.punct .comma, .punct .rbrace]) r →
    Reads .entry (ts ++ r) named r

section
variable {ts : List Token} {a b : List Tok} {tok : Tok}

/-- Where a token stands among others. -/
theorem exists_of_map_append_cons (h : ts.map Token.tok = a ++ tok :: b) :
    ∃ front o back, ts = front ++ ⟨tok, o⟩ :: back ∧ front.map Token.tok = a ∧
      back.map Token.tok = b := by
  obtain ⟨front, rest, rfl, hfront, hrest⟩ := List.map_eq_append_iff.1 h
  obtain ⟨⟨tok', o⟩, back, rfl, rfl, hback⟩ := List.map_eq_cons_iff.1 hrest
  exact ⟨front, o, back, rfl, hfront, hback⟩

theorem exists_of_map_cons (h : ts.map Token.tok = tok :: b) :
    ∃ o back, ts = ⟨tok, o⟩ :: back ∧ back.map Token.tok = b := by
  obtain ⟨⟨tok', o⟩, back, rfl, rfl, hback⟩ := List.map_eq_cons_iff.1 h
  exact ⟨o, back, rfl, hback⟩

theorem exists_of_map_singleton (h : ts.map Token.tok = [tok]) : ∃ o, ts = [⟨tok, o⟩] := by
  obtain ⟨o, back, rfl, hback⟩ := exists_of_map_cons h
  obtain rfl := List.map_eq_nil_iff.1 hback
  exact ⟨o, rfl⟩

/-- Where a token and the brackets around others stand. -/
theorem exists_of_map_bracketed {close : Tok} (h : ts.map Token.tok = tok :: (b ++ [close])) :
    ∃ o inner o', ts = ⟨tok, o⟩ :: (inner ++ [⟨close, o'⟩]) ∧ inner.map Token.tok = b := by
  obtain ⟨o, back, rfl, hback⟩ := exists_of_map_cons h
  obtain ⟨inner, o', last, rfl, hinner, hlast⟩ := exists_of_map_append_cons hback
  obtain rfl := List.map_eq_nil_iff.1 hlast
  exact ⟨o, inner, o', rfl, hinner⟩

end

/-- A mark that closes the brackets of items opens no expression. -/
theorem ne_close_of_opens {tok : Tok} {close : Punct} (hclose : close ∈ [.rparen, .rbracket])
    (h : OpensPrimary tok ∨ True ∧ ∃ p op, tok = .punct p ∧ (p, op) ∈ signs) :
    tok ≠ .punct close := by
  rintro rfl
  obtain h | ⟨-, p, op, hp, hmem⟩ := h
  · simp only [List.mem_cons, List.not_mem_nil, or_false] at hclose
    obtain rfl | rfl := hclose <;> exact h
  · obtain rfl := Tok.punct.inj hp
    simp only [List.mem_cons, List.not_mem_nil, or_false] at hclose
    obtain rfl | rfl := hclose <;> simp [signs] at hmem

/-- No sign opens an operand. -/
theorem unaryOp?_of_opensPrimary {tok : Tok} (h : OpensPrimary tok) : unaryOp? tok = none := by
  unfold OpensPrimary at h
  split at h
  all_goals first | rfl | exact h.elim

theorem ne_rbrace_of_entryKey {tok : Tok} {key : String} (h : EntryKey tok key) :
    tok ≠ .punct .rbrace := by
  cases h <;> simp

/-- Operands and operators are read in front of what is neither. -/
theorem reads_of_readsBack {e : Expr} {ts r : List Token}
    (h : Category.ReadsBack (.binary 0) e ts) (hoperand : Next EndsOperand r)
    (hoperator : Next (binaryOp? · = none) r) : Reads (.binary 0) (ts ++ r) e r := by
  have hnone : ∀ n, Next (Weaker n) r := fun n =>
    hoperator.imp fun tok htok op level hop => by rw [htok] at hop; cases hop
  exact h (Nat.zero_le _) hoperand (hnone 1) (.stop (hnone 0))

/-- What is derived is read, in front of anything that cannot go on with it. -/
theorem Derives.readsBack {c : Category} {toks : List Tok} {v : c.Value} (h : Derives c toks v) :
    ∀ {ts : List Token}, ts.map Token.tok = toks → c.ReadsBack v ts := by
  induction h with
  | plain h ih =>
    intro ts hts r hends
    have hread := reads_of_readsBack (ih hts) (hends.imp fun _ h => h.1)
      (hends.imp fun _ h => h.2.1)
    exact .plain hread (hends.imp fun _ h => h.2.2)
  | conditional hcondition hyes hno ih ih₁ ih₂ =>
    intro ts hts r hends
    obtain ⟨front, o₁, rest, rfl, hfront, hrest⟩ := exists_of_map_append_cons hts
    obtain ⟨mid, o₂, back, rfl, hmid, hback⟩ := exists_of_map_append_cons hrest
    have hread := reads_of_readsBack (ih hfront)
      (r := ⟨.punct .question, o₁⟩ :: (mid ++ ⟨.punct .colon, o₂⟩ :: (back ++ r)))
      (next_cons.2 (by simp [EndsOperand])) (next_cons.2 rfl)
    have hread₁ := ih₁ hmid (r := ⟨.punct .colon, o₂⟩ :: (back ++ r))
      (next_cons.2 (endsExpression_mark (by simp)))
    have hread₂ := ih₂ hback hends
    simpa using Reads.conditional hread hread₁ hread₂
  | tighter h ih =>
    intro ts hts min r r' e' hmin hends hweaker hrest
    exact ih hts (Nat.le_succ_of_le hmin) hends (hweaker.imp fun _ h => h.imp (Nat.le_succ _)) hrest
  | @operator front back left right level p op hop hleft hright ih ih₁ =>
    intro ts hts min r r' e' hmin hends hweaker hrest
    obtain ⟨ts₁, o, ts₂, rfl, hts₁, hts₂⟩ := exists_of_map_append_cons hts
    have hop' : binaryOp? (.punct p) = some (op, level + 1) :=
      binaryOp?_eq_some_iff.2 ⟨p, level, rfl, rfl, hop⟩
    have hoperand : EndsOperand (.punct p) := by
      refine ⟨?_, ?_, ?_⟩ <;> intro hp <;> rw [hp] at hop' <;> cases hop'
    have hlevel : Weaker (level + 1) (.punct p) := fun op' n h => by
      rw [hop'] at h
      cases h
      exact Nat.le_refl _
    -- the right operand ends at an operator that binds no more tightly than this one
    have hread₁ : Reads (.binary (level + 1)) (ts₂ ++ r) right r :=
      ih₁ hts₂ (Nat.le_refl _) hends (hweaker.imp fun _ h => h.imp (Nat.le_succ _)) (.stop hweaker)
    have hgo : Reads (.binaryRest min left) (⟨.punct p, o⟩ :: (ts₂ ++ r)) e' r' :=
      .operator hop' (Nat.lt_succ_of_le hmin) hread₁ hrest
    have hread := ih hts₁ hmin (next_cons.2 hoperand) (next_cons.2 hlevel) hgo
    simpa using hread
  | unary h ih =>
    intro ts hts min r r' e' hmin hends hweaker hrest
    exact .binary (ih hts hends) hrest
  | sign hop h ih =>
    intro ts hts r hends
    obtain ⟨o, back, rfl, hback⟩ := exists_of_map_cons hts
    exact .sign (unaryOp?_eq_some_iff.2 ⟨_, rfl, hop⟩) (ih hback hends)
  | operand h ih =>
    intro ts hts r hends
    obtain ⟨tok, rest, rfl, htok⟩ := h.begins
    obtain ⟨o, back, rfl, hback⟩ := exists_of_map_cons hts
    have hopens : OpensPrimary tok := htok.resolve_right fun h => h.1
    exact .operand (unaryOp?_of_opensPrimary hopens) (ih hts (.bare hends))
  | primary h ih =>
    intro ts hts r r' e' hrest
    exact .postfixed (ih hts r) hrest
  | member h ih =>
    intro ts hts r r' e' hrest
    obtain ⟨front, o, last, rfl, hfront, hlast⟩ := exists_of_map_append_cons hts
    obtain ⟨o', rfl⟩ := exists_of_map_singleton hlast
    rw [List.append_assoc]
    exact ih hfront (.member hrest)
  | @index toks _ e key h hkey ih ih₁ =>
    intro ts hts r r' e' hrest
    obtain ⟨front, rest, rfl, hfront, hback⟩ := List.map_eq_append_iff.1 hts
    obtain ⟨o, inner, o', rfl, hinner⟩ := exists_of_map_bracketed hback
    have hread₁ := ih₁ hinner (r := ⟨.punct .rbracket, o'⟩ :: r)
      (next_cons.2 (endsExpression_mark (by simp)))
    have hgo : Reads (.postfixRest e)
        (⟨.punct .lbracket, o⟩ :: (inner ++ ⟨.punct .rbracket, o'⟩ :: r)) e' r' :=
      .index hread₁ hrest
    have hread := ih hfront hgo
    simpa using hread
  | call h hargs ih ih₁ =>
    intro ts hts r r' e' hrest
    obtain ⟨front, rest, rfl, hfront, hback⟩ := List.map_eq_append_iff.1 hts
    obtain ⟨o, inner, o', rfl, hinner⟩ := exists_of_map_bracketed hback
    have hclose : Punct.rparen ∈ [.rparen, .rbracket] := by simp
    have hread₁ := ih₁ hinner hclose o' r
    have hread := ih hfront (.call (o := o) hread₁ hrest)
    simpa using hread
  | number x =>
    intro ts hts r
    obtain ⟨o, rfl⟩ := exists_of_map_singleton hts
    exact .number
  | string s =>
    intro ts hts r
    obtain ⟨o, rfl⟩ := exists_of_map_singleton hts
    exact .string
  | constant hword =>
    intro ts hts r
    obtain ⟨o, rfl⟩ := exists_of_map_singleton hts
    obtain ⟨k, hk, hvalue⟩ := mem_constants_iff.1 hword
    exact .constant hk hvalue
  | name hname =>
    intro ts hts r
    obtain ⟨o, rfl⟩ := exists_of_map_singleton hts
    exact .ident hname
  | @parens _ e h ih =>
    intro ts hts r
    obtain ⟨o, inner, o', rfl, hinner⟩ := exists_of_map_bracketed hts
    have hread := ih hinner (r := ⟨.punct .rparen, o'⟩ :: r)
      (next_cons.2 (endsExpression_mark (by simp)))
    have hprimary : Reads .primary
        (⟨.punct .lparen, o⟩ :: (inner ++ ⟨.punct .rparen, o'⟩ :: r)) e r :=
      .parens hread
    simpa using hprimary
  | array h ih =>
    intro ts hts r
    obtain ⟨o, inner, o', rfl, hinner⟩ := exists_of_map_bracketed hts
    have hclose : Punct.rbracket ∈ [.rparen, .rbracket] := by simp
    have hread := ih hinner hclose o' r
    simpa using Reads.array (o := o) hread
  | object h ih =>
    intro ts hts r
    obtain ⟨o, inner, o', rfl, hinner⟩ := exists_of_map_bracketed hts
    have hread := ih hinner o' r
    simpa using Reads.object (o := o) hread
  | noItems =>
    intro ts hts close hclose o r
    obtain rfl := List.map_eq_nil_iff.1 hts
    exact .noItems
  | lastItem h ih =>
    intro ts hts close hclose o r
    obtain ⟨tok, rest, rfl, htok⟩ := h.begins
    obtain ⟨o', back, rfl, hback⟩ := exists_of_map_cons hts
    have hends : close ∈ [.comma, .colon, .semicolon, .rparen, .rbracket, .rbrace] := by
      revert hclose
      cases close <;> simp
    have hcomma : close ≠ .comma := by
      rintro rfl
      simp at hclose
    exact .lastItem (ne_close_of_opens hclose htok) hcomma
      (ih hts (next_cons.2 (endsExpression_mark hends)))
  | item h hmore ih ih₁ =>
    intro ts hts close hclose o r
    obtain ⟨front, o', back, rfl, hfront, hback⟩ := exists_of_map_append_cons hts
    obtain ⟨tok, rest, rfl, htok⟩ := h.begins
    obtain ⟨o'', front, rfl, -⟩ := exists_of_map_cons hfront
    have hread := ih hfront (r := ⟨.punct .comma, o'⟩ :: (back ++ ⟨.punct close, o⟩ :: r))
      (next_cons.2 (endsExpression_mark (by simp)))
    have hread₁ := ih₁ hback hclose o r
    simpa using Reads.item (t := ⟨tok, o''⟩) (ne_close_of_opens hclose htok) hread hread₁
  | noEntries =>
    intro ts hts o r
    obtain rfl := List.map_eq_nil_iff.1 hts
    exact .noEntries
  | lastEntry h ih =>
    intro ts hts o r
    have hread := ih hts (r := ⟨.punct .rbrace, o⟩ :: r) (next_cons.2 (by simp))
    cases h with
    | full hkey hvalue =>
      obtain ⟨o', back, rfl, -⟩ := exists_of_map_cons hts
      exact .lastEntry (ne_rbrace_of_entryKey hkey) hread
    | short hkey =>
      obtain ⟨o', back, rfl, -⟩ := exists_of_map_cons hts
      exact .lastEntry (ne_rbrace_of_entryKey hkey) hread
  | entry h hmore ih ih₁ =>
    intro ts hts o r
    obtain ⟨front, o', back, rfl, hfront, hback⟩ := exists_of_map_append_cons hts
    have hread := ih hfront (r := ⟨.punct .comma, o'⟩ :: (back ++ ⟨.punct .rbrace, o⟩ :: r))
      (next_cons.2 (by simp))
    have hread₁ := ih₁ hback o r
    cases h with
    | full hkey hvalue =>
      obtain ⟨o'', front, rfl, -⟩ := exists_of_map_cons hfront
      simpa using Reads.entry (ne_rbrace_of_entryKey hkey) hread hread₁
    | short hkey =>
      obtain ⟨o'', front, rfl, -⟩ := exists_of_map_cons hfront
      simpa using Reads.entry (ne_rbrace_of_entryKey hkey) hread hread₁
  | full hkey hvalue ih =>
    intro ts hts r hends
    obtain ⟨o, rest, rfl, hrest⟩ := exists_of_map_cons hts
    obtain ⟨o', back, rfl, hback⟩ := exists_of_map_cons hrest
    have hread := ih hback (hends.imp fun tok h => by
      simp only [List.mem_cons, List.not_mem_nil, or_false] at h
      obtain rfl | rfl := h <;> exact endsExpression_mark (by simp))
    exact .full (entryKey?_eq_some_iff.2 hkey) hread
  | short hkey =>
    intro ts hts r hends
    obtain ⟨o, rfl⟩ := exists_of_map_singleton hts
    have hcolon : Next (· ≠ .punct .colon) r := hends.imp fun tok h => by
      simp only [List.mem_cons, List.not_mem_nil, or_false] at h
      obtain rfl | rfl := h <;> simp
    exact .short (entryKey?_eq_some_iff.2 hkey) hcolon

/-! ## expressions -/

theorem reads_iff_derives {ts : List Token} {e : Expr} :
    Reads .expression ts e [] ↔ Derives .expression (ts.map Token.tok) e := by
  constructor
  · intro h
    obtain ⟨front, rfl, hderived⟩ := h.derived
    rw [List.append_nil]
    exact hderived
  · intro h
    have hread := h.readsBack rfl (r := []) (next_nil _)
    rw [List.append_nil] at hread
    exact hread

/-- Tokens derive at most one tree. -/
theorem Derives.unique {toks : List Tok} {e e' : Expr} (h : Derives .expression toks e)
    (h' : Derives .expression toks e') : e = e' := by
  let ts : List Token := toks.map fun tok => ⟨tok, 0⟩
  have htoks : ts.map Token.tok = toks := by simp [ts, Function.comp_def]
  rw [← htoks, ← reads_iff_derives, ← expressionOnly_eq_ok_iff] at h h'
  exact Except.ok.inj (h.symm.trans h')

/-- **The parser of expressions accepts its grammar.** Tokens are read as one expression
with the tree `e` just if the grammar derives `e` from them, and it derives at most one
tree from given tokens. -/
theorem expressionOnly_iff_derives :
    (∀ (ts : List Token) (e : Expr),
      expressionOnly ts = .ok e ↔ Derives .expression (ts.map Token.tok) e) ∧
    ∀ (toks : List Tok) (e e' : Expr),
      Derives .expression toks e → Derives .expression toks e' → e = e' :=
  ⟨fun _ _ => expressionOnly_eq_ok_iff.trans reads_iff_derives, fun _ _ _ h h' => h.unique h'⟩

/-- Differences are taken from the left: `a - b - c` is read so, and is derived so only. -/
theorem expressionOnly_iff_derives_differences :
    let ts : List Token := [⟨.ident "a", 0⟩, ⟨.punct .minus, 1⟩, ⟨.ident "b", 2⟩,
      ⟨.punct .minus, 3⟩, ⟨.ident "c", 4⟩]
    expressionOnly ts =
      .ok (.binary .sub (.binary .sub (.ident "a") (.ident "b")) (.ident "c")) ∧
    ¬ Derives .expression (ts.map Token.tok)
      (.binary .sub (.ident "a") (.binary .sub (.ident "b") (.ident "c"))) := by
  intro ts
  have hname : ∀ {x : String}, Keyword.ofName? x = none →
      Derives (.binary 5) [.ident x] (.ident x) := fun hx =>
    Derives.loosen (by decide) (.unary (.operand (.primary (.name hx))))
  have hfront : Derives (.binary 4) [.ident "a", .punct .minus, .ident "b"]
      (.binary .sub (.ident "a") (.ident "b")) :=
    .operator (by simp [operators]) (hname rfl).tighter (hname rfl)
  have htree : Derives .expression (ts.map Token.tok)
      (.binary .sub (.binary .sub (.ident "a") (.ident "b")) (.ident "c")) :=
    .plain (Derives.loosen (Nat.zero_le 4) (.operator (by simp [operators]) hfront (hname rfl)))
  refine ⟨(expressionOnly_iff_derives.1 ts _).2 htree, fun h => ?_⟩
  have heq := expressionOnly_iff_derives.2 _ _ _ h htree
  simp at heq

end Stencil.Script.Parse
