import Stencil.Proofs.Script.Clause
import Stencil.Proofs.Script.Derivation

/-!
# Stencil.Proofs.Script.Written

Statements as they are written down. `Written c toks v` says that the tokens `toks` are
a way to write the statement, or the statements, `v`: an expression in any way that the
grammar derives, a loop with or without a word that declares its variable, and a
semicolon after each declaration, assignment and expression.

Two statements can be written alike, since an `if` without `else` takes an `else` that
comes next. It must not stand at the end of the statement before an `else`, and
`Stmt.wellNested` says that it never does. Such statements are read as they are written
(`statements_of_written`), and no others are read at all (`wellNestedAll_of_statements`).
-/

namespace Stencil.Script.Parse

/-! ## words and marks -/

/-- Each keyword is known by its spelling. -/
theorem ofName?_spelling (k : Keyword) : Keyword.ofName? k.spelling = some k := by
  cases k <;> rfl

/-- The token of a keyword. -/
abbrev word (k : Keyword) : Tok := .ident k.spelling

/-- Different keywords are different words. -/
theorem word_inj {k k' : Keyword} (h : word k = word k') : k = k' := by
  have hname := ofName?_spelling k
  rw [Tok.ident.inj h, ofName?_spelling] at hname
  exact (Option.some.inj hname).symm

/-- No keyword is taken just if its word does not stand there. -/
theorem eatKeyword?_eq_none_iff_word {k : Keyword} {ts : List Token} :
    eatKeyword? k ts = none ↔ Next (· ≠ word k) ts := by
  rw [eatKeyword?_eq_none_iff]
  constructor <;> intro h
  · refine h.imp fun tok htok heq => ?_
    exact htok _ heq (ofName?_spelling k)
  · refine h.imp fun tok htok name heq hname => ?_
    rw [heq, eq_spelling_of_ofName? hname] at htok
    exact htok rfl

/-- A word that declares variables is read as one. -/
theorem declares_spelling {k : Keyword} (h : k.declares = true) :
    (Keyword.ofName? k.spelling).any Keyword.declares = true := by
  rw [ofName?_spelling]
  exact h

/-- The sign of an assignment. -/
def assignMark : AssignOp → Punct
  | .set => .assign
  | .add => .plusAssign
  | .sub => .minusAssign

/-- The mark of an operator that assigns is known as its mark. -/
theorem assignOp?_assignMark (op : AssignOp) : assignOp? (.punct (assignMark op)) = some op := by
  cases op <;> rfl

/-! ## where an `else` belongs -/

/-- Whether a statement ends in an `if` without `else`, perhaps as the last part of an
`else` or of a loop. -/
def endsOpen : Stmt → Bool
  | .branch _ _ none => true
  | .branch _ _ (some no) => endsOpen no
  | .forOf _ _ body => endsOpen body
  | .forIn _ _ body => endsOpen body
  | _ => false

mutual

/-- Whether no `else` in a statement stands behind a statement that would take it. -/
def wellNested : Stmt → Bool
  | .branch _ yes none => wellNested yes
  | .branch _ yes (some no) => !endsOpen yes && wellNested yes && wellNested no
  | .forOf _ _ body => wellNested body
  | .forIn _ _ body => wellNested body
  | .block body => wellNestedAll body
  | _ => true

/-- Whether each of the statements is well nested. -/
def wellNestedAll : List Stmt → Bool
  | [] => true
  | s :: rest => wellNested s && wellNestedAll rest

end

/-- Whether what a clause is read as is well nested. -/
def Clause.WellNested : (c : Clause) → c.Value → Prop
  | .statement, s => wellNested s = true
  | .statements, body => wellNestedAll body = true

/-- A loop could go on with an `else` if its body could. -/
theorem endsOpen_loop (kind : LoopKind) (x : String) (e : Expr) (body : Stmt) :
    endsOpen (kind.loop x e body) = endsOpen body := by
  cases kind <;> simp only [LoopKind.loop, endsOpen]

/-- A loop is well nested if its body is. -/
theorem wellNested_loop (kind : LoopKind) (x : String) (e : Expr) (body : Stmt) :
    wellNested (kind.loop x e body) = wellNested body := by
  cases kind <;> simp only [LoopKind.loop, wellNested]

/-! ## ways to write a statement -/

/-- Ways to write the variable of a loop: with a word that declares it, or without. -/
inductive LoopVariable (x : String) : List Tok → Prop where
  | bare : LoopVariable x [.ident x]
  | declared {k : Keyword} : k.declares = true → LoopVariable x [word k, .ident x]

/-- Ways to write a statement, or statements one after the other. -/
inductive Written : (c : Clause) → List Tok → c.Value → Prop where
  | emit (index : Nat) : Written .statement [.emit index] (.emit index)
  | empty : Written .statement [.punct .semicolon] .empty
  | expr {toks : List Tok} {e : Expr} :
    Derives .expression toks e → toks.head? ≠ some (.punct .lbrace) →
    Written .statement (toks ++ [.punct .semicolon]) (.expr e)
  | declare {k : Keyword} {x : String} : k.declares = true → Keyword.ofName? x = none →
    Written .statement [word k, .ident x, .punct .semicolon] (.declare x none)
  | declareAs {k : Keyword} {x : String} {toks : List Tok} {e : Expr} :
    k.declares = true → Keyword.ofName? x = none → Derives .expression toks e →
    Written .statement (word k :: .ident x :: .punct .assign :: (toks ++ [.punct .semicolon]))
      (.declare x (some e))
  | assign {x : String} {op : AssignOp} {toks : List Tok} {e : Expr} :
    Keyword.ofName? x = none → Derives .expression toks e →
    Written .statement (.ident x :: .punct (assignMark op) :: (toks ++ [.punct .semicolon]))
      (.assign x op e)
  | branch {toks front : List Tok} {e : Expr} {yes : Stmt} :
    Derives .expression toks e → Written .statement front yes →
    Written .statement (word .ifWord :: .punct .lparen :: (toks ++ .punct .rparen :: front))
      (.branch e yes none)
  | branchElse {toks front back : List Tok} {e : Expr} {yes no : Stmt} :
    Derives .expression toks e → Written .statement front yes → Written .statement back no →
    Written .statement (word .ifWord :: .punct .lparen ::
      (toks ++ .punct .rparen :: (front ++ word .elseWord :: back))) (.branch e yes (some no))
  | loop {head toks front : List Tok} {x : String} {kind : LoopKind} {e : Expr} {body : Stmt} :
    LoopVariable x head → Keyword.ofName? x = none → Derives .expression toks e →
    Written .statement front body →
    Written .statement (word .forWord :: .punct .lparen ::
      (head ++ .ident kind.word :: (toks ++ .punct .rparen :: front))) (kind.loop x e body)
  | block {toks : List Tok} {body : List Stmt} : Written .statements toks body →
    Written .statement (.punct .lbrace :: (toks ++ [.punct .rbrace])) (.block body)
  | done : Written .statements [] []
  | next {front back : List Tok} {s : Stmt} {body : List Stmt} :
    Written .statement front s → Written .statements back body →
    Written .statements (front ++ back) (s :: body)

/-! ## the tokens of an expression -/

section
variable {p : Punct}

/-- A binary operator does not assign. -/
theorem assignOp?_operator {op : BinaryOp} {level : Nat} (h : (p, op) ∈ operators level) :
    assignOp? (.punct p) = none := by
  have hop := binaryOp?_eq_some_iff.2 ⟨p, level, rfl, rfl, h⟩
  cases p <;> first | rfl | cases hop

/-- A sign does not assign. -/
theorem assignOp?_sign {op : UnaryOp} (h : (p, op) ∈ signs) : assignOp? (.punct p) = none := by
  have hop := unaryOp?_eq_some_iff.2 ⟨p, rfl, h⟩
  cases p <;> first | rfl | cases hop

/-- The name of an entry does not assign. -/
theorem assignOp?_entryKey {tok : Tok} {key : String} (h : EntryKey tok key) :
    assignOp? tok = none := by
  cases h <;> rfl

end

/-- An expression has no sign of assignment in it. -/
theorem Derives.assignOp?_eq_none {c : Category} {toks : List Tok} {v : c.Value}
    (h : Derives c toks v) : ∀ tok ∈ toks, assignOp? tok = none := by
  induction h with
  | operator hop hleft hright ih ih₁ =>
    have hmark := assignOp?_operator hop
    grind
  | sign hop h ih =>
    have hmark := assignOp?_sign hop
    grind
  | full hkey hvalue ih =>
    have hname := assignOp?_entryKey hkey
    grind [assignOp?]
  | short hkey =>
    have hname := assignOp?_entryKey hkey
    grind
  | _ => grind [assignOp?]

/-- An expression that does not begin with a brace opens a statement. -/
theorem opensExpression_of_opens {tok : Tok} {ts : List Token}
    (h : OpensPrimary tok ∨ True ∧ ∃ p op, tok = .punct p ∧ (p, op) ∈ signs)
    (hbrace : tok ≠ .punct .lbrace) (hnext : Next (assignOp? · = none) ts) :
    OpensExpression tok ts := by
  obtain h | ⟨-, p, op, rfl, hmem⟩ := h
  · cases tok with
    | ident name =>
      have hconstant : ∀ k, Keyword.ofName? name = some k → opensStatement k = false := by
        intro k hk
        have hsome := h k hk
        cases k <;> first | rfl | cases hsome
      exact ⟨hconstant, hnext⟩
    | punct p => cases p <;> trivial
    | emit index => exact h.elim
    | _ => trivial
  · have hop := unaryOp?_eq_some_iff.2 ⟨p, rfl, hmem⟩
    cases p <;> trivial

/-! ## what is written is read -/

/-- No expression begins with an `else`. -/
theorem ne_else_of_opens {tok : Tok}
    (h : OpensPrimary tok ∨ True ∧ ∃ p op, tok = .punct p ∧ (p, op) ∈ signs) :
    tok ≠ word .elseWord := by
  rintro rfl
  obtain h | ⟨-, p, op, hp, -⟩ := h
  · have hsome := h .elseWord rfl
    cases hsome
  · cases hp

/-- A statement has a first token, which is not `else`. -/
theorem Written.exists_cons {toks : List Tok} {s : Stmt} (h : Written .statement toks s) :
    ∃ tok rest, toks = tok :: rest ∧ tok ≠ word .elseWord := by
  have hname : ∀ {x : String}, Keyword.ofName? x = none → Tok.ident x ≠ word .elseWord := by
    intro x hx heq
    rw [Tok.ident.inj heq] at hx
    cases hx
  have hdeclares : ∀ {k : Keyword}, k.declares = true → word k ≠ word .elseWord := by
    intro k hk heq
    obtain rfl := word_inj heq
    cases hk
  cases h with
  | expr hderives hbrace =>
    obtain ⟨tok, rest, rfl, htok⟩ := hderives.begins
    exact ⟨tok, _, rfl, ne_else_of_opens htok⟩
  | declare hk hx => exact ⟨_, _, rfl, hdeclares hk⟩
  | declareAs hk hx hderives => exact ⟨_, _, rfl, hdeclares hk⟩
  | assign hx hderives => exact ⟨_, _, rfl, hname hx⟩
  | _ => exact ⟨_, _, rfl, by simp [Keyword.spelling]⟩

/-- How the tokens `ts` are read that `v` is written with. Those of a statement that ends
in an `if` without `else` are read so in front of anything but `else`. -/
def Clause.ReadsBack : (c : Clause) → c.Value → (ts : List Token) → Prop
  | .statement, s, ts => ∀ {r : List Token},
    (endsOpen s = true → Next (· ≠ word .elseWord) r) → Builds .statement (ts ++ r) s r
  | .statements, body, ts => ∀ {r : List Token},
    Next (· ≠ word .elseWord) r → Builds .statements (ts ++ r) body r

/-- Written statements do not begin with an `else`, unless there are none. -/
theorem Written.next_ne_else {toks : List Tok} {body : List Stmt}
    (h : Written .statements toks body) {ts r : List Token} (hts : ts.map Token.tok = toks)
    (hr : Next (· ≠ word .elseWord) r) : Next (· ≠ word .elseWord) (ts ++ r) := by
  cases h with
  | done =>
    obtain rfl := List.map_eq_nil_iff.1 hts
    exact hr
  | next hs hbody =>
    obtain ⟨tok, rest, rfl, htok⟩ := hs.exists_cons
    obtain ⟨o, back, rfl, hback⟩ := exists_of_map_cons hts
    simpa using htok

/-- The first two tokens stand at some offsets. -/
theorem exists_of_map_cons_cons {ts : List Token} {tok tok' : Tok} {b : List Tok}
    (h : ts.map Token.tok = tok :: tok' :: b) :
    ∃ o o' back, ts = ⟨tok, o⟩ :: ⟨tok', o'⟩ :: back ∧ back.map Token.tok = b := by
  obtain ⟨o, rest, rfl, hrest⟩ := exists_of_map_cons h
  obtain ⟨o', back, rfl, hback⟩ := exists_of_map_cons hrest
  exact ⟨o, o', back, rfl, hback⟩

/-- An expression is read up to a mark that ends it. -/
theorem Derives.exists_reads {p : Punct} {toks back : List Tok} {e : Expr} {ts : List Token}
    (h : Derives .expression toks e) (hp : EndsExpression (.punct p))
    (hts : ts.map Token.tok = toks ++ .punct p :: back) :
    ∃ inner o after, ts = inner ++ ⟨.punct p, o⟩ :: after ∧ inner.map Token.tok = toks ∧
      after.map Token.tok = back ∧
      ∀ r, Reads .expression (inner ++ ⟨.punct p, o⟩ :: r) e (⟨.punct p, o⟩ :: r) := by
  obtain ⟨inner, o, after, rfl, hinner, hafter⟩ := exists_of_map_append_cons hts
  exact ⟨inner, o, after, rfl, hinner, hafter, fun r => h.readsBack hinner (next_cons.2 hp)⟩

/-- An expression is read up to the semicolon that ends its statement. -/
theorem Derives.exists_reads_semicolon {toks : List Tok} {e : Expr} {ts : List Token}
    (h : Derives .expression toks e) (hts : ts.map Token.tok = toks ++ [.punct .semicolon]) :
    ∃ inner o, ts = inner ++ [⟨.punct .semicolon, o⟩] ∧ inner.map Token.tok = toks ∧
      ∀ r, Reads .expression (inner ++ ⟨.punct .semicolon, o⟩ :: r) e
        (⟨.punct .semicolon, o⟩ :: r) := by
  obtain ⟨inner, o, after, rfl, hinner, hafter, hread⟩ :=
    h.exists_reads (p := .semicolon) (endsExpression_mark (by simp)) hts
  obtain rfl := List.map_eq_nil_iff.1 hafter
  exact ⟨inner, o, rfl, hinner, hread⟩

/-- What is written as the variable of a loop is a declarator and a name. -/
theorem LoopVariable.declarator {x : String} {head : List Tok} (h : LoopVariable x head)
    {ts : List Token} {tok : Tok} {back : List Tok}
    (hts : ts.map Token.tok = head ++ tok :: back) :
    ∃ front o o' after, ts = front ++ ⟨.ident x, o⟩ :: ⟨tok, o'⟩ :: after ∧ Declarator front ∧
      after.map Token.tok = back := by
  cases h with
  | bare =>
    obtain ⟨o, o', after, rfl, hafter⟩ := exists_of_map_cons_cons hts
    exact ⟨[], o, o', after, rfl, .inl rfl, hafter⟩
  | @declared k hk =>
    obtain ⟨o, rest, rfl, hrest⟩ := exists_of_map_cons hts
    obtain ⟨o', o'', after, rfl, hafter⟩ := exists_of_map_cons_cons hrest
    have hfront : Declarator [⟨word k, o⟩] := .inr ⟨k.spelling, o, rfl, declares_spelling hk⟩
    exact ⟨[⟨word k, o⟩], o', o'', after, rfl, hfront, hafter⟩

/-- **What is written is read.** -/
theorem Written.readsBack {c : Clause} {toks : List Tok} {v : c.Value} (h : Written c toks v)
    (hnested : c.WellNested v) {ts : List Token} (hts : ts.map Token.tok = toks) :
    c.ReadsBack v ts := by
  induction h generalizing ts with
  | emit index =>
    intro r hr
    obtain ⟨o, rfl⟩ := exists_of_map_singleton hts
    exact .emit
  | empty =>
    intro r hr
    obtain ⟨o, rfl⟩ := exists_of_map_singleton hts
    exact .empty
  | expr hderives hbrace =>
    intro r hr
    obtain ⟨inner, o, rfl, hinner, hread⟩ := hderives.exists_reads_semicolon hts
    have hsigns := hderives.assignOp?_eq_none
    obtain ⟨tok, rest, rfl, htok⟩ := hderives.begins
    obtain ⟨o', back, rfl, hback⟩ := exists_of_map_cons hinner
    have hnext : Next (assignOp? · = none) (back ++ ⟨.punct .semicolon, o⟩ :: r) := by
      cases back with
      | nil => exact next_cons.2 rfl
      | cons t back => exact next_cons.2 (hsigns t.tok (by rw [← hback]; simp))
    have hopens := opensExpression_of_opens htok (by simpa using hbrace) hnext
    rw [List.append_assoc]
    exact .expr hopens (hread r) rfl
  | declare hk hx =>
    intro r hr
    obtain ⟨o, o', rest, rfl, hrest⟩ := exists_of_map_cons_cons hts
    obtain ⟨o'', rfl⟩ := exists_of_map_singleton hrest
    exact .declare (declares_spelling hk) hx (next_cons.2 (by simp)) rfl
  | declareAs hk hx hderives =>
    intro r hr
    obtain ⟨o, rest, rfl, hrest⟩ := exists_of_map_cons hts
    obtain ⟨o', o'', value, rfl, hvalue⟩ := exists_of_map_cons_cons hrest
    obtain ⟨inner, o₃, rfl, hinner, hread⟩ := hderives.exists_reads_semicolon hvalue
    simp only [List.cons_append, List.append_assoc, List.nil_append]
    exact .declareAs (declares_spelling hk) hx (hread r) rfl
  | @assign x op toks e hx hderives =>
    intro r hr
    obtain ⟨o, o', rest, rfl, hrest⟩ := exists_of_map_cons_cons hts
    obtain ⟨inner, o'', rfl, hinner, hread⟩ := hderives.exists_reads_semicolon hrest
    simp only [List.cons_append, List.append_assoc, List.nil_append]
    exact .assign hx (assignOp?_assignMark op) (hread r) rfl
  | branch hderives hyes ih =>
    intro r hr
    rw [Clause.WellNested, wellNested] at hnested
    obtain ⟨o, o', rest, rfl, hrest⟩ := exists_of_map_cons_cons hts
    obtain ⟨inner, o'', after, rfl, hinner, hafter, hread⟩ :=
      hderives.exists_reads (p := .rparen) (endsExpression_mark (by simp)) hrest
    have hnext := hr (by rw [endsOpen])
    simp only [List.cons_append, List.append_assoc]
    exact .branch (ofName?_spelling _) (hread _) (ih hnested hafter fun _ => hnext)
      (eatKeyword?_eq_none_iff_word.2 hnext)
  | branchElse hderives hyes hno ih ih₁ =>
    intro r hr
    rw [Clause.WellNested, wellNested] at hnested
    simp only [Bool.and_eq_true, Bool.not_eq_true'] at hnested
    obtain ⟨⟨hclosed, hyesNested⟩, hnoNested⟩ := hnested
    obtain ⟨o, o', rest, rfl, hrest⟩ := exists_of_map_cons_cons hts
    obtain ⟨inner, o'', after, rfl, hinner, hafter, hread⟩ :=
      hderives.exists_reads (p := .rparen) (endsExpression_mark (by simp)) hrest
    obtain ⟨front, o₃, back, rfl, hfront, hback⟩ := exists_of_map_append_cons hafter
    have hfirst := ih hyesNested hfront (r := ⟨word .elseWord, o₃⟩ :: (back ++ r))
      fun hopen => by rw [hclosed] at hopen; cases hopen
    have hsecond := ih₁ hnoNested hback (r := r) fun hopen => hr (by rw [endsOpen, hopen])
    simp only [List.cons_append, List.append_assoc]
    exact .branchElse (ofName?_spelling _) (hread _) hfirst (ofName?_spelling _) hsecond
  | @loop head toks front x kind e body hhead hx hderives hbody ih =>
    intro r hr
    rw [endsOpen_loop] at hr
    rw [Clause.WellNested, wellNested_loop] at hnested
    obtain ⟨o, o', rest, rfl, hrest⟩ := exists_of_map_cons_cons hts
    obtain ⟨front, o'', o₃, value, rfl, hdeclarator, hvalue⟩ := hhead.declarator hrest
    obtain ⟨inner, o₄, after, rfl, hinner, hafter, hread⟩ :=
      hderives.exists_reads (p := .rparen) (endsExpression_mark (by simp)) hvalue
    simp only [List.cons_append, List.append_assoc]
    exact .loop (ofName?_spelling _) hdeclarator hx (hread _) (ih hnested hafter hr)
  | block hbody ih =>
    intro r hr
    rw [Clause.WellNested, wellNested] at hnested
    obtain ⟨o, inner, o', rfl, hinner⟩ := exists_of_map_bracketed hts
    have hread := ih hnested hinner (r := ⟨.punct .rbrace, o'⟩ :: r) (next_cons.2 (by simp))
    simp only [List.cons_append, List.append_assoc, List.nil_append]
    exact .block hread
  | done =>
    intro r hr
    obtain rfl := List.map_eq_nil_iff.1 hts
    exact .done
  | next hs hbody ih ih₁ =>
    intro r hr
    rw [Clause.WellNested, wellNestedAll, Bool.and_eq_true] at hnested
    obtain ⟨front, back, rfl, hfront, hback⟩ := List.map_eq_append_iff.1 hts
    have hfirst := ih hnested.1 hfront (r := back ++ r) fun _ => hbody.next_ne_else hback hr
    rw [List.append_assoc]
    exact .next hfirst (ih₁ hnested.2 hback hr)

/-! ## what is read is well nested -/

/-- What is known of a clause that is read with `r` left: it is well nested, and no `else`
follows a statement that would take it. -/
def Clause.Settled : (c : Clause) → c.Value → (r : List Token) → Prop
  | .statement, s, r =>
    wellNested s = true ∧ (endsOpen s = true → eatKeyword? .elseWord r = none)
  | .statements, body, _ => wellNestedAll body = true

/-- Behind a statement that is read there is nothing that it could go on with. -/
theorem Builds.settled {c : Clause} {ts r : List Token} {v : c.Value} (h : Builds c ts v r) :
    c.Settled v r := by
  induction h with
  | branch hword hread hyes helse ih =>
    obtain ⟨hnested, -⟩ := ih
    exact ⟨by rw [wellNested, hnested], fun _ => helse⟩
  | @branchElse ts r₁ r₂ r word other e yes no o o₁ o₂ o₃ hword hread hyes hother hno ih ih₁ =>
    obtain ⟨hnested, hopen⟩ := ih
    obtain ⟨hnested₁, hopen₁⟩ := ih₁
    have hclosed : endsOpen yes = false := by
      cases hyesOpen : endsOpen yes with
      | false => rfl
      | true =>
        have hnone := hopen hyesOpen
        rw [eatKeyword?_ident hother] at hnone
        cases hnone
    refine ⟨by simp [wellNested, hclosed, hnested, hnested₁], fun h => ?_⟩
    rw [endsOpen] at h
    exact hopen₁ h
  | @loop front ts r₁ r word x kind e body o o₁ o₂ o₃ o₄ hword hfront hx hread hbody ih =>
    obtain ⟨hnested, hopen⟩ := ih
    refine ⟨by rw [wellNested_loop, hnested], fun h => ?_⟩
    rw [endsOpen_loop] at h
    exact hopen h
  | block hbody ih => exact ⟨by rw [wellNested]; exact ih, fun h => by simp [endsOpen] at h⟩
  | done => rfl
  | next hs hbody ih ih₁ =>
    have hrest : wellNestedAll _ = true := ih₁
    rw [Clause.Settled, wellNestedAll, ih.1, hrest]
    rfl
  | _ => exact ⟨by rw [wellNested] <;> simp, fun h => by simp [endsOpen] at h⟩

/-- The parser makes well nested statements only: an `else` goes to the nearest `if` that
is open. -/
theorem wellNestedAll_of_statements {ts : List Token} {body : List Stmt}
    (h : statements ts = .ok body) : wellNestedAll body = true :=
  (statements_eq_ok_iff.1 h).settled

/-- Well nested statements are read as they are written. -/
theorem statements_of_written {ts : List Token} {body : List Stmt}
    (h : Written .statements (ts.map Token.tok) body) (hnested : wellNestedAll body = true) :
    statements ts = .ok body := by
  have hread := h.readsBack hnested rfl (r := []) (next_nil _)
  rw [List.append_nil] at hread
  exact statements_eq_ok_iff.2 hread

end Stencil.Script.Parse
