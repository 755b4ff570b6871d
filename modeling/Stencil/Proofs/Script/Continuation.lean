import Stencil.Proofs.Script.Clause
import Stencil.Proofs.Script.Lexemes
import Stencil.Proofs.Script.Outputs

/-!
# Stencil.Proofs.Script.Continuation

What is read does not depend on what stands elsewhere. Tokens are read as before
when they stand further on in the code and after more outputs (`Token.move`),
and when tokens follow that end every statement (`Stops`): a text or a value
between two markers, or a closing bracket. None of these can go on with an
expression, stand for a semicolon that was left out, or begin an `else`.

The one thing that changes are the numbers of outputs in the statements
(`Stmt.shift`).
-/

namespace Stencil.Script

/-! ## tokens elsewhere -/

@[simp] theorem renumber_eq_punct_iff {n : Nat} {tok : Tok} {p : Punct} :
    tok.renumber n = .punct p ↔ tok = .punct p := by
  cases tok <;> simp [Tok.renumber]

/-- Whether a token ends the statement before it. -/
def Tok.ends : Tok → Bool
  | .emit _ | .punct .rbrace | .punct .rparen => true
  | _ => false

/-- What ends an expression is an output or a closing bracket. -/
theorem Tok.cases_of_ends {tok : Tok} (h : tok.ends = true) :
    (∃ index, tok = .emit index) ∨ tok = .punct .rbrace ∨ tok = .punct .rparen := by
  unfold Tok.ends at h
  split at h
  · exact .inl ⟨_, rfl⟩
  · exact .inr (.inl rfl)
  · exact .inr (.inr rfl)
  · cases h

namespace Parse

/-- The first token, if there is one, ends the statement before it. -/
def Stops (ts : List Token) : Prop := Next (fun tok => tok.ends = true) ts

section
variable {n m : Nat} {r more : List Token} {P : Tok → Prop}

/-- What follows does not matter to a condition that is met by all tokens that end
statements. -/
theorem Next.append (h : Next P r) (hemit : ∀ index, P (.emit index))
    (hbrace : P (.punct .rbrace)) (hparen : P (.punct .rparen)) (hstops : r = [] → Stops more) :
    Next P (r.map (Token.move n m) ++ more) := by
  cases r with
  | nil =>
    intro t ht
    obtain ⟨index, htok⟩ | htok | htok := Tok.cases_of_ends (hstops rfl t ht)
    · exact htok ▸ hemit index
    · exact htok ▸ hbrace
    · exact htok ▸ hparen
  | cons t r =>
    rw [List.map_cons, List.cons_append, next_cons]
    have ht := next_cons.1 h
    unfold Token.move
    cases htok : t.tok with
    | emit index => exact hemit _
    | _ =>
      rw [htok] at ht
      exact ht

end

/-! ## expressions -/

section
variable (n : Nat) (tok : Tok)

theorem binaryOp?_renumber : binaryOp? (tok.renumber n) = binaryOp? tok := by
  cases tok <;> rfl

theorem unaryOp?_renumber : unaryOp? (tok.renumber n) = unaryOp? tok := by
  cases tok <;> rfl

theorem entryKey?_renumber : entryKey? (tok.renumber n) = entryKey? tok := by
  cases tok <;> rfl

theorem assignOp?_renumber : assignOp? (tok.renumber n) = assignOp? tok := by
  cases tok <;> rfl

end

/-- A phrase leaves no more tokens than there were. -/
theorem Reads.length_le {p : Phrase} {ts r : List Token} {v : p.Value} (h : Reads p ts v r) :
    r.length ≤ ts.length := by
  have hread := readPhrase_of_reads h
  cases p with
  | binaryRest min left => exact (exists_of_forget hread).1
  | postfixRest e => exact (exists_of_forget hread).1
  | _ => exact Nat.le_of_lt (exists_of_forget hread).1

/-- Nothing is left of nothing. -/
theorem Reads.eq_nil {p : Phrase} {ts r : List Token} {v : p.Value} (h : Reads p ts v r)
    (hts : ts = []) : r = [] := by
  have hle := h.length_le
  rw [hts] at hle
  exact List.eq_nil_of_length_eq_zero (Nat.le_zero.1 hle)

/-- Phrases are read as they are elsewhere. -/
theorem Reads.append {p : Phrase} {ts r more : List Token} {v : p.Value} (h : Reads p ts v r)
    (hstops : r = [] → Stops more) (n m : Nat) :
    Reads p (ts.map (Token.move n m) ++ more) v (r.map (Token.move n m) ++ more) := by
  induction h with
  | plain hcondition hnext ih =>
    exact .plain (ih hstops) (hnext.append (by simp) (by simp) (by simp) hstops)
  | conditional hcondition hyes hno ih ih₁ ih₂ =>
    exact .conditional (ih (by simp)) (ih₁ (by simp)) (ih₂ hstops)
  | binary hleft hrest ih ih₁ =>
    exact .binary (ih fun hr => hstops (hrest.eq_nil hr)) (ih₁ hstops)
  | stop hnext =>
    exact .stop (hnext.append (by simp [binaryOp?]) (by simp [binaryOp?]) (by simp [binaryOp?])
      hstops)
  | operator hop hlt hright hrest ih ih₁ =>
    exact .operator ((binaryOp?_renumber n _).trans hop) hlt
      (ih fun hr => hstops (hrest.eq_nil hr)) (ih₁ hstops)
  | operand hop hoperand ih => exact .operand ((unaryOp?_renumber n _).trans hop) (ih hstops)
  | sign hop hoperand ih => exact .sign ((unaryOp?_renumber n _).trans hop) (ih hstops)
  | postfixed hprimary hrest ih ih₁ =>
    exact .postfixed (ih fun hr => hstops (hrest.eq_nil hr)) (ih₁ hstops)
  | bare hnext => exact .bare (hnext.append (by simp) (by simp) (by simp) hstops)
  | member hrest ih => exact .member (ih hstops)
  | index hkey hrest ih ih₁ => exact .index (ih (by simp)) (ih₁ hstops)
  | call hargs hrest ih ih₁ =>
    exact .call (ih fun hr => hstops (hrest.eq_nil hr)) (ih₁ hstops)
  | noItems => exact .noItems
  | lastItem hclose hcomma hitem ih =>
    exact .lastItem (mt renumber_eq_punct_iff.1 hclose) hcomma (ih (by simp))
  | item hclose hitem hrest ih ih₁ =>
    exact .item (mt renumber_eq_punct_iff.1 hclose) (ih (by simp)) (ih₁ hstops)
  | noEntries => exact .noEntries
  | lastEntry hclose hentry ih =>
    exact .lastEntry (mt renumber_eq_punct_iff.1 hclose) (ih (by simp))
  | entry hclose hentry hrest ih ih₁ =>
    exact .entry (mt renumber_eq_punct_iff.1 hclose) (ih (by simp)) (ih₁ hstops)
  | short hkey hnext =>
    exact .short ((entryKey?_renumber n _).trans hkey)
      (hnext.append (by simp) (by simp) (by simp) hstops)
  | full hkey hvalue ih => exact .full ((entryKey?_renumber n _).trans hkey) (ih hstops)
  | number => exact .number
  | string => exact .string
  | ident hname => exact .ident hname
  | constant hk hvalue => exact .constant hk hvalue
  | parens hinner ih => exact .parens (ih (by simp))
  | array hitems ih => exact .array (ih hstops)
  | object hentries ih => exact .object (ih hstops)

/-! ## statements -/

/-- What a clause is read as after `n` more outputs. -/
def shiftValue (n : Nat) : (c : Clause) → c.Value → c.Value
  | .statement, s => s.shift n
  | .statements, body => shiftAll n body

section
variable {ts r r' more : List Token}

theorem skipSemicolon_of_next (h : Next (· ≠ .punct .semicolon) ts) :
    (skipSemicolon ts).1 = ts := by
  rw [skipSemicolon, eat?_eq_none_iff.2 h]
  rfl

/-- A semicolon is skipped whatever follows. -/
theorem skipSemicolon_append (h : (skipSemicolon r).1 = r') (hstops : r' = [] → Stops more)
    (n m : Nat) :
    (skipSemicolon (r.map (Token.move n m) ++ more)).1 = r'.map (Token.move n m) ++ more := by
  by_cases hnext : Next (· ≠ .punct .semicolon) r
  · obtain rfl : r = r' := (skipSemicolon_of_next hnext).symm.trans h
    exact skipSemicolon_of_next (hnext.append (by simp) (by simp) (by simp) hstops)
  · cases r with
    | nil => exact absurd (next_nil _) hnext
    | cons t r =>
      obtain ⟨tok, o⟩ := t
      obtain rfl : tok = .punct .semicolon := by simpa using hnext
      obtain rfl : r = r' := h
      rfl

theorem skipSemicolon_eq_nil (h : (skipSemicolon r).1 = r') (hr : r = []) : r' = [] := by
  subst hr
  exact h.symm

/-- A statement that is an expression is one whatever follows. -/
theorem OpensExpression.append {tok : Tok} (h : OpensExpression tok ts)
    (hstops : ts = [] → Stops more) (n m : Nat) :
    OpensExpression (tok.renumber n) (ts.map (Token.move n m) ++ more) := by
  cases tok with
  | ident word =>
    exact ⟨h.1, h.2.append (by simp [assignOp?]) (by simp [assignOp?]) (by simp [assignOp?]) hstops⟩
  | emit index => exact h
  | number x => trivial
  | string s => trivial
  | punct p =>
    cases p with
    | lbrace => exact h
    | semicolon => exact h
    | rbrace => exact h
    | _ => trivial

/-- No statements are made of nothing. -/
theorem Builds.eq_nil {body : List Stmt} (h : Builds .statements ts body r) (hts : ts = []) :
    r = [] := by
  cases h with
  | done => exact hts
  | next hs hbody =>
    obtain ⟨t, ts', rfl, -⟩ := hs.exists_cons
    cases hts

end

/-- Statements are read as they are elsewhere. -/
theorem Builds.append {c : Clause} {ts r more : List Token} {v : c.Value} (h : Builds c ts v r)
    (hstops : r = [] → Stops more) (n m : Nat) :
    Builds c (ts.map (Token.move n m) ++ more) (shiftValue n c v)
      (r.map (Token.move n m) ++ more) := by
  induction h with
  | emit =>
    rw [shiftValue, Stmt.shift]
    exact .emit
  | empty =>
    rw [shiftValue, Stmt.shift]
    exact .empty
  | block hbody ih =>
    rw [shiftValue, Stmt.shift]
    exact .block (ih (by simp))
  | branch hword hread hyes helse ih =>
    rw [shiftValue, Stmt.shift]
    have hnext := eatKeyword?_eq_none_iff.1 helse
    exact .branch hword (hread.append (by simp) n m) (ih hstops)
      (eatKeyword?_eq_none_iff.2 (hnext.append (by simp) (by simp) (by simp) hstops))
  | branchElse hword hread hyes helse hno ih ih₁ =>
    rw [shiftValue, Stmt.shift]
    exact .branchElse hword (hread.append (by simp) n m) (ih (by simp)) helse (ih₁ hstops)
  | @loop front ts r₁ r word x kind e body o o₁ o₂ o₃ o₄ hword hfront hx hread hbody ih =>
    have hvalue : shiftValue n .statement (kind.loop x e body) = kind.loop x e (body.shift n) := by
      cases kind <;> rw [shiftValue, LoopKind.loop, Stmt.shift]
    have hfront' : Declarator (front.map (Token.move n m)) := by
      rcases hfront with rfl | ⟨word, o, rfl, hword⟩
      · exact .inl rfl
      · exact .inr ⟨word, m + o, rfl, hword⟩
    rw [hvalue, List.map_cons, List.map_cons, List.map_append, List.map_cons, List.map_cons,
      List.cons_append, List.cons_append, List.append_assoc]
    exact .loop hword hfront' hx (hread.append (by simp) n m) (ih hstops)
  | declare hword hx hnext hend =>
    rw [shiftValue, Stmt.shift]
    exact .declare hword hx (hnext.append (by simp) (by simp) (by simp) fun hr =>
      hstops (skipSemicolon_eq_nil hend hr)) (skipSemicolon_append hend hstops n m)
  | declareAs hword hx hread hend =>
    rw [shiftValue, Stmt.shift]
    exact .declareAs hword hx (hread.append (fun hr => hstops (skipSemicolon_eq_nil hend hr)) n m)
      (skipSemicolon_append hend hstops n m)
  | assign hx hop hread hend =>
    rw [shiftValue, Stmt.shift]
    exact .assign hx ((assignOp?_renumber n _).trans hop)
      (hread.append (fun hr => hstops (skipSemicolon_eq_nil hend hr)) n m)
      (skipSemicolon_append hend hstops n m)
  | @expr t ts r r' e hopens hread hend =>
    have hrest : ts = [] → r = [] := fun hts => by
      obtain ⟨hlt, -⟩ := exists_of_reads_expression hread
      rw [hts] at hlt
      exact List.eq_nil_of_length_eq_zero (Nat.lt_one_iff.1 hlt)
    rw [shiftValue, Stmt.shift]
    exact .expr
      (hopens.append (fun hts => hstops (skipSemicolon_eq_nil hend (hrest hts))) n m)
      (hread.append (fun hr => hstops (skipSemicolon_eq_nil hend hr)) n m)
      (skipSemicolon_append hend hstops n m)
  | done =>
    rw [shiftValue, shiftAll]
    exact .done
  | next hs hbody ih ih₁ =>
    rw [shiftValue, shiftAll]
    exact .next (ih fun hr => hstops (hbody.eq_nil hr)) (ih₁ hstops)

end Parse

end Stencil.Script
