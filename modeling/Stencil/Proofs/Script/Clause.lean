import Stencil.Proofs.Script.Phrase
import Stencil.Script.Parse.Statement

/-!
# Stencil.Proofs.Script.Clause

The grammar of statements, with one rule for each kind of statement and two for
statements that follow each other. The parser reads just what the rules make:
`statements_eq_ok_iff`.
-/

namespace Stencil.Script.Parse

/-! ## words -/

/-- Whether a statement that begins with a keyword is no expression. -/
def opensStatement : Keyword → Bool
  | .ifWord | .elseWord | .forWord | .letWord | .constWord | .varWord => true
  | _ => false

/-- Whether a statement is an expression, if its first token and those after it
are given. -/
def OpensExpression (tok : Tok) (ts : List Token) : Prop :=
  match tok with
  | .emit _ | .punct .lbrace | .punct .semicolon | .punct .rbrace => False
  | .ident word => (∀ k, Keyword.ofName? word = some k → opensStatement k = false) ∧
      Next (fun tok => assignOp? tok = none) ts
  | _ => True

/-- The word for a kind of loop. -/
def LoopKind.word : LoopKind → String
  | .of => "of"
  | .keys => "in"

/-- What may stand before the variable of a loop. -/
def Declarator (front : List Token) : Prop :=
  front = [] ∨ ∃ word o, front = [⟨.ident word, o⟩] ∧
    (Keyword.ofName? word).any Keyword.declares = true

/-! ## the grammar -/

/-- A statement, or statements one after the other. -/
inductive Clause where
  | statement
  | statements

/-- What a clause is read as. -/
abbrev Clause.Value : Clause → Type
  | .statement => Stmt
  | .statements => List Stmt

/-- The statements at the front of tokens. -/
inductive Builds : (c : Clause) → List Token → c.Value → List Token → Prop where
  | emit {r : List Token} {index o : Nat} :
    Builds .statement (⟨.emit index, o⟩ :: r) (.emit index) r
  | empty {r : List Token} {o : Nat} : Builds .statement (⟨.punct .semicolon, o⟩ :: r) .empty r
  | block {ts r : List Token} {body : List Stmt} {o₁ o₂ : Nat} :
    Builds .statements ts body (⟨.punct .rbrace, o₂⟩ :: r) →
    Builds .statement (⟨.punct .lbrace, o₁⟩ :: ts) (.block body) r
  | branch {ts r₁ r : List Token} {word : String} {e : Expr} {yes : Stmt} {o o₁ o₂ : Nat} :
    Keyword.ofName? word = some .ifWord → Reads .expression ts e (⟨.punct .rparen, o₂⟩ :: r₁) →
    Builds .statement r₁ yes r → eatKeyword? .elseWord r = none →
    Builds .statement (⟨.ident word, o⟩ :: ⟨.punct .lparen, o₁⟩ :: ts) (.branch e yes none) r
  | branchElse {ts r₁ r₂ r : List Token} {word other : String} {e : Expr} {yes no : Stmt}
    {o o₁ o₂ o₃ : Nat} :
    Keyword.ofName? word = some .ifWord → Reads .expression ts e (⟨.punct .rparen, o₂⟩ :: r₁) →
    Builds .statement r₁ yes (⟨.ident other, o₃⟩ :: r₂) →
    Keyword.ofName? other = some .elseWord → Builds .statement r₂ no r →
    Builds .statement (⟨.ident word, o⟩ :: ⟨.punct .lparen, o₁⟩ :: ts)
      (.branch e yes (some no)) r
  | loop {front ts r₁ r : List Token} {word x : String} {kind : LoopKind} {e : Expr}
    {body : Stmt} {o o₁ o₂ o₃ o₄ : Nat} :
    Keyword.ofName? word = some .forWord → Declarator front → Keyword.ofName? x = none →
    Reads .expression ts e (⟨.punct .rparen, o₄⟩ :: r₁) → Builds .statement r₁ body r →
    Builds .statement (⟨.ident word, o⟩ :: ⟨.punct .lparen, o₁⟩ ::
      (front ++ ⟨.ident x, o₂⟩ :: ⟨.ident kind.word, o₃⟩ :: ts)) (kind.loop x e body) r
  | declare {r r' : List Token} {word x : String} {o o₁ : Nat} :
    (Keyword.ofName? word).any Keyword.declares = true → Keyword.ofName? x = none →
    Next (· ≠ .punct .assign) r → (skipSemicolon r).1 = r' →
    Builds .statement (⟨.ident word, o⟩ :: ⟨.ident x, o₁⟩ :: r) (.declare x none) r'
  | declareAs {ts r r' : List Token} {word x : String} {e : Expr} {o o₁ o₂ : Nat} :
    (Keyword.ofName? word).any Keyword.declares = true → Keyword.ofName? x = none →
    Reads .expression ts e r → (skipSemicolon r).1 = r' →
    Builds .statement (⟨.ident word, o⟩ :: ⟨.ident x, o₁⟩ :: ⟨.punct .assign, o₂⟩ :: ts)
      (.declare x (some e)) r'
  | assign {t : Token} {ts r r' : List Token} {x : String} {op : AssignOp} {e : Expr} {o : Nat} :
    Keyword.ofName? x = none → assignOp? t.tok = some op → Reads .expression ts e r →
    (skipSemicolon r).1 = r' → Builds .statement (⟨.ident x, o⟩ :: t :: ts) (.assign x op e) r'
  | expr {t : Token} {ts r r' : List Token} {e : Expr} :
    OpensExpression t.tok ts → Reads .expression (t :: ts) e r → (skipSemicolon r).1 = r' →
    Builds .statement (t :: ts) (.expr e) r'
  | done {r : List Token} : Builds .statements r [] r
  | next {ts r r' : List Token} {s : Stmt} {body : List Stmt} :
    Builds .statement ts s r → Builds .statements r body r' → Builds .statements ts (s :: body) r'

/-- Statements follow each other. -/
theorem Builds.trans {r' : List Token} {body' : List Stmt} :
    ∀ {ts r : List Token} {body : List Stmt}, Builds .statements ts body r →
      Builds .statements r body' r' → Builds .statements ts (body ++ body') r'
  | _, _, _, .done, h' => h'
  | _, _, _, .next hs hbody, h' => .next hs (hbody.trans h')

/-! ## words and names at the front -/

section
variable {ts r : List Token}

/-- A word that is no keyword is a name. -/
theorem name_ident {x : String} (h : Keyword.ofName? x = none) (o : Nat) (r : List Token) :
    name (⟨.ident x, o⟩ :: r) = .ok (x, .tail _ r) := by
  simp [name, h]

/-- What is read as a name is such a word. -/
theorem exists_of_name {x : String} {left : Left ts} (he : name ts = .ok (x, left)) :
    ∃ o, ts = ⟨.ident x, o⟩ :: left.1 ∧ Keyword.ofName? x = none := by
  unfold name at he
  split at he
  · next y o r =>
    split at he
    · cases he
    · next hname =>
      obtain ⟨rfl, rfl⟩ := Prod.mk.inj (Except.ok.inj he)
      exact ⟨o, rfl, by simpa using hname⟩
  · cases he

/-- A keyword is taken where it stands. -/
theorem eatKeyword?_ident {word : String} {k : Keyword} (h : Keyword.ofName? word = some k)
    (o : Nat) (r : List Token) : eatKeyword? k (⟨.ident word, o⟩ :: r) = some (.tail _ r) :=
  if_pos h

/-- What is taken as a keyword is its word. -/
theorem exists_of_eatKeyword? {k : Keyword} {left : Left ts} (he : eatKeyword? k ts = some left) :
    ∃ word o, ts = ⟨.ident word, o⟩ :: left.1 ∧ Keyword.ofName? word = some k := by
  unfold eatKeyword? at he
  split at he
  · next word o r =>
    split at he
    · next hk =>
      obtain rfl := Option.some.inj he
      exact ⟨word, o, rfl, hk⟩
    · cases he
  · cases he

/-- Nothing is taken where any other token stands. -/
theorem eatKeyword?_eq_none_iff {k : Keyword} :
    eatKeyword? k ts = none ↔
      Next (fun tok => ∀ word, tok = .ident word → Keyword.ofName? word ≠ some k) ts := by
  cases ts with
  | nil => simp [eatKeyword?]
  | cons t ts =>
    obtain ⟨tok, o⟩ := t
    cases tok <;> simp [eatKeyword?]

/-- What is skipped in front of the variable of a loop is a declarator, if anything is. -/
theorem exists_skipDeclarator (ts : List Token) :
    ∃ front, ts = front ++ (skipDeclarator ts).1 ∧ Declarator front := by
  unfold skipDeclarator
  split
  · next word o r =>
    split
    · next hk => exact ⟨[⟨.ident word, o⟩], rfl, .inr ⟨word, o, rfl, hk⟩⟩
    · exact ⟨[], rfl, .inl rfl⟩
  · exact ⟨[], rfl, .inl rfl⟩

/-- A declarator is skipped as a whole, and the name after it is left. -/
theorem skipDeclarator_append {front : List Token} {x : String} (hfront : Declarator front)
    (hx : Keyword.ofName? x = none) (o : Nat) (r : List Token) :
    (skipDeclarator (front ++ ⟨.ident x, o⟩ :: r)).1 = ⟨.ident x, o⟩ :: r := by
  rcases hfront with rfl | ⟨word, o', rfl, hk⟩
  · simp [skipDeclarator, hx, LeftOrAll.all]
  · simp only [List.singleton_append, skipDeclarator, hk, if_true]
    rfl

/-- Each kind of loop is read from its word. -/
theorem loopKind_word (kind : LoopKind) (o : Nat) (r : List Token) :
    loopKind (⟨.ident kind.word, o⟩ :: r) = .ok (kind, .tail _ r) := by
  cases kind <;> rfl

/-- What is read as a kind of loop is its word. -/
theorem exists_of_loopKind {kind : LoopKind} {left : Left ts}
    (he : loopKind ts = .ok (kind, left)) : ∃ o, ts = ⟨.ident kind.word, o⟩ :: left.1 := by
  unfold loopKind at he
  split at he
  · next word o r =>
    split at he
    · next hword =>
      obtain ⟨rfl, rfl⟩ := Prod.mk.inj (Except.ok.inj he)
      exact ⟨o, by rw [hword]; rfl⟩
    split at he
    · next hword =>
      obtain ⟨rfl, rfl⟩ := Prod.mk.inj (Except.ok.inj he)
      exact ⟨o, by rw [hword]; rfl⟩
    · cases he
  · cases he

end

/-! ## what the parser builds -/

section
variable {ts r : List Token} {s : Stmt} {h : r.length < ts.length}

/-- A declaration that is read is a statement of the grammar. -/
theorem builds_of_declaration {word : String} (o : Nat)
    (hword : (Keyword.ofName? word).any Keyword.declares = true)
    (he : declaration ts = .ok (s, ⟨r, h⟩)) : Builds .statement (⟨.ident word, o⟩ :: ts) s r := by
  obtain ⟨⟨x, r₁, h₁⟩, hx, he⟩ := Except.bind_eq_ok_iff.1 he
  obtain ⟨o₁, hts, hname⟩ := exists_of_name hx
  dsimp only at he hts
  split at he
  · next hassign =>
    have hinj := read_inj he
    obtain ⟨rfl, rfl⟩ : .declare x none = s ∧ (skipSemicolon r₁).1 = r := hinj
    rw [hts]
    exact .declare hword hname (eat?_eq_none_iff.1 hassign) rfl
  · next left hassign =>
    obtain ⟨r₂, h₂⟩ := left
    obtain ⟨⟨e, r₃, h₃⟩, hread, he⟩ := Except.bind_eq_ok_iff.1 he
    have hinj := read_inj he
    obtain ⟨rfl, rfl⟩ : .declare x (some e) = s ∧ (skipSemicolon r₃).1 = r := hinj
    have hreads := reads_of_expression_eq_ok hread
    obtain ⟨o₂, rfl⟩ := exists_of_eat? hassign
    rw [hts]
    exact .declareAs hword hname hreads rfl

/-- So is an assignment. -/
theorem builds_of_assignment {t : Token} {x : String} {o : Nat} {op : AssignOp}
    {h : r.length < (⟨.ident x, o⟩ :: t :: ts : List Token).length}
    (hop : assignOp? t.tok = some op)
    (he : assignment op (⟨.ident x, o⟩ :: t :: ts) = .ok (s, ⟨r, h⟩)) :
    Builds .statement (⟨.ident x, o⟩ :: t :: ts) s r := by
  obtain ⟨⟨y, r₁, h₁⟩, hx, he⟩ := Except.bind_eq_ok_iff.1 he
  obtain ⟨o₁, hts, hname⟩ := exists_of_name hx
  obtain ⟨⟨rfl, rfl⟩, rfl⟩ : (x = y ∧ o = o₁) ∧ t :: ts = r₁ := by simpa using hts
  obtain ⟨⟨e, r₂, h₂⟩, hread, he⟩ := Except.bind_eq_ok_iff.1 he
  have hinj := read_inj he
  obtain ⟨rfl, rfl⟩ : .assign x op e = s ∧ (skipSemicolon r₂).1 = r := hinj
  exact .assign hname hop (reads_of_expression_eq_ok hread) rfl

/-- So is an expression that stands as a statement. -/
theorem builds_of_expressionStatement {t : Token} {h : r.length < (t :: ts).length}
    (hopens : OpensExpression t.tok ts)
    (he : expressionStatement (t :: ts) = .ok (s, ⟨r, h⟩)) : Builds .statement (t :: ts) s r := by
  obtain ⟨⟨e, r₁, h₁⟩, hread, he⟩ := Except.bind_eq_ok_iff.1 he
  have hinj := read_inj he
  obtain ⟨rfl, rfl⟩ : .expr e = s ∧ (skipSemicolon r₁).1 = r := hinj
  exact .expr hopens (reads_of_expression_eq_ok hread) rfl

/-- A condition is an expression in parentheses. -/
theorem exists_of_condition {e : Expr} (he : condition ts = .ok (e, ⟨r, h⟩)) :
    ∃ o₁ o₂ ts', ts = ⟨.punct .lparen, o₁⟩ :: ts' ∧
      Reads .expression ts' e (⟨.punct .rparen, o₂⟩ :: r) := by
  obtain ⟨⟨r₁, h₁⟩, hopen, he⟩ := Except.bind_eq_ok_iff.1 he
  obtain ⟨⟨e', r₂, h₂⟩, hread, he⟩ := Except.bind_eq_ok_iff.1 he
  obtain ⟨⟨r₃, h₃⟩, hclose, he⟩ := Except.bind_eq_ok_iff.1 he
  obtain ⟨rfl, rfl⟩ : e' = e ∧ r₃ = r := read_inj he
  have hreads := reads_of_expression_eq_ok hread
  obtain ⟨o₁, hts⟩ := exists_of_expect hopen
  obtain ⟨o₂, rfl⟩ := exists_of_expect hclose
  exact ⟨o₁, o₂, r₁, hts, hreads⟩

/-- The head of a loop has a name, the word of its kind and an expression, in parentheses. -/
theorem exists_of_loopHead {x : String} {kind : LoopKind} {e : Expr}
    (he : loopHead ts = .ok ((x, kind, e), ⟨r, h⟩)) :
    ∃ o₁ front o₂ o₃ o₄ ts', ts = ⟨.punct .lparen, o₁⟩ ::
        (front ++ ⟨.ident x, o₂⟩ :: ⟨.ident kind.word, o₃⟩ :: ts') ∧
      Declarator front ∧ Keyword.ofName? x = none ∧
      Reads .expression ts' e (⟨.punct .rparen, o₄⟩ :: r) := by
  obtain ⟨⟨r₁, h₁⟩, hopen, he⟩ := Except.bind_eq_ok_iff.1 he
  obtain ⟨⟨y, r₂, h₂⟩, hx, he⟩ := Except.bind_eq_ok_iff.1 he
  obtain ⟨⟨kind', r₃, h₃⟩, hkind, he⟩ := Except.bind_eq_ok_iff.1 he
  obtain ⟨⟨e', r₄, h₄⟩, hread, he⟩ := Except.bind_eq_ok_iff.1 he
  obtain ⟨⟨r₅, h₅⟩, hclose, he⟩ := Except.bind_eq_ok_iff.1 he
  obtain ⟨heq, rfl⟩ : (y, kind', e') = (x, kind, e) ∧ r₅ = r := read_inj he
  obtain ⟨rfl, rfl, rfl⟩ : y = x ∧ kind' = kind ∧ e' = e := by simpa using heq
  have hreads := reads_of_expression_eq_ok hread
  obtain ⟨o₁, hts⟩ := exists_of_expect hopen
  obtain ⟨front, hfront, hdeclarator⟩ := exists_skipDeclarator r₁
  obtain ⟨o₂, hname, hx⟩ := exists_of_name hx
  obtain ⟨o₃, hword⟩ := exists_of_loopKind hkind
  obtain ⟨o₄, hparen⟩ := exists_of_expect hclose
  dsimp only at hname hword hparen hreads
  refine ⟨o₁, front, o₂, o₃, o₄, r₃, ?_, hdeclarator, hx, ?_⟩
  · rw [hts, ← hword, ← hname, ← hfront]
  · rw [← hparen]
    exact hreads

end

/-- What the parser builds as a statement follows the grammar. -/
def SoundAt (ts : List Token) : Prop :=
  ∀ {s : Stmt} {r : List Token} {h : r.length < ts.length},
    statement ts = .ok (s, ⟨r, h⟩) → Builds .statement ts s r

/-- A block has statements of the grammar up to its brace. -/
theorem builds_of_block {ts r : List Token} {body : List Stmt} {h : r.length < ts.length}
    (ih : ∀ ts', ts'.length ≤ ts.length → SoundAt ts') (he : block ts = .ok (body, ⟨r, h⟩)) :
    ∃ o, Builds .statements ts body (⟨.punct .rbrace, o⟩ :: r) := by
  rw [block] at he
  split at he
  · next left hclose =>
    obtain ⟨r₁, h₁⟩ := left
    obtain ⟨rfl, rfl⟩ : [] = body ∧ r₁ = r := read_inj he
    obtain ⟨o, rfl⟩ := exists_of_eat? hclose
    exact ⟨o, .done⟩
  · split at he
    · cases he
    · obtain ⟨⟨s, r₁, h₁⟩, hs, he⟩ := Except.bind_eq_ok_iff.1 he
      obtain ⟨⟨rest, r₂, h₂⟩, hrest, he⟩ := Except.bind_eq_ok_iff.1 he
      obtain ⟨rfl, rfl⟩ : s :: rest = body ∧ r₂ = r := read_inj he
      obtain ⟨o, hbuilds⟩ := builds_of_block (fun ts' hlt => ih ts' (by omega)) hrest
      exact ⟨o, .next (ih ts (Nat.le_refl _) hs) hbuilds⟩
termination_by ts.length

/-- A branch has a condition and one statement or two. -/
theorem builds_of_branch {ts r : List Token} {word : String} {s : Stmt} {h : r.length < ts.length}
    (o : Nat) (hword : Keyword.ofName? word = some .ifWord)
    (ih : ∀ ts', ts'.length < ts.length → SoundAt ts') (he : branch ts = .ok (s, ⟨r, h⟩)) :
    Builds .statement (⟨.ident word, o⟩ :: ts) s r := by
  rw [branch] at he
  obtain ⟨⟨e, r₁, h₁⟩, hcondition, he⟩ := Except.bind_eq_ok_iff.1 he
  obtain ⟨⟨yes, r₂, h₂⟩, hyes, he⟩ := Except.bind_eq_ok_iff.1 he
  obtain ⟨o₁, o₂, ts', hts, hreads⟩ := exists_of_condition hcondition
  have hbuilds := ih r₁ h₁ hyes
  dsimp only at he
  split at he
  · next helse =>
    obtain ⟨rfl, rfl⟩ : .branch e yes none = s ∧ r₂ = r := read_inj he
    rw [hts]
    exact .branch hword hreads hbuilds helse
  · next r₃ h₃ helse =>
    obtain ⟨⟨no, r₄, h₄⟩, hno, he⟩ := Except.bind_eq_ok_iff.1 he
    obtain ⟨rfl, rfl⟩ : .branch e yes (some no) = s ∧ r₄ = r := read_inj he
    obtain ⟨other, o₃, hother, helseWord⟩ := exists_of_eatKeyword? helse
    dsimp only at hother
    have hbuilds₁ := ih r₃ (Nat.lt_trans h₃ (Nat.lt_trans h₂ h₁)) hno
    rw [hother] at hbuilds
    rw [hts]
    exact .branchElse hword hreads hbuilds helseWord hbuilds₁

/-- **The parser is sound**: what it reads is a statement of the grammar. -/
theorem builds_of_statement (ts : List Token) : SoundAt ts := by
  intro s r h he
  have ih : ∀ ts', ts'.length < ts.length → SoundAt ts' := fun ts' hlt => builds_of_statement ts'
  unfold statement at he
  split at he
  · cases h
  · next index o ts =>
    obtain ⟨rfl, rfl⟩ : .emit index = s ∧ ts = r := read_inj he
    exact .emit
  · next o ts =>
    obtain ⟨⟨body, r₁, h₁⟩, hbody, he⟩ := Except.bind_eq_ok_iff.1 he
    obtain ⟨rfl, rfl⟩ : .block body = s ∧ r₁ = r := read_inj he
    obtain ⟨o', hbuilds⟩ := builds_of_block
      (fun ts' hle => ih ts' (Nat.lt_succ_of_le hle)) hbody
    exact .block hbuilds
  · next o ts =>
    obtain ⟨rfl, rfl⟩ : .empty = s ∧ ts = r := read_inj he
    exact .empty
  · cases he
  · next word o ts =>
    split at he
    · next hword =>
      obtain ⟨⟨s', r₁, h₁⟩, hs, he⟩ := Except.bind_eq_ok_iff.1 he
      obtain ⟨rfl, rfl⟩ : s' = s ∧ r₁ = r := read_inj he
      exact builds_of_branch o hword (fun ts' hlt => ih ts' (Nat.lt_succ_of_lt hlt)) hs
    · next hword =>
      obtain ⟨⟨⟨x, kind, e⟩, r₁, h₁⟩, hhead, he⟩ := Except.bind_eq_ok_iff.1 he
      obtain ⟨⟨body, r₂, h₂⟩, hbody, he⟩ := Except.bind_eq_ok_iff.1 he
      obtain ⟨rfl, rfl⟩ : kind.loop x e body = s ∧ r₂ = r := read_inj he
      obtain ⟨o₁, front, o₂, o₃, o₄, ts', hts, hfront, hx, hreads⟩ := exists_of_loopHead hhead
      have hbuilds := ih r₁ (Nat.lt_succ_of_lt h₁) hbody
      rw [hts]
      exact .loop hword hfront hx hreads hbuilds
    · cases he
    · next hword =>
      obtain ⟨⟨s', r₁, h₁⟩, hs, he⟩ := Except.bind_eq_ok_iff.1 he
      obtain ⟨rfl, rfl⟩ : s' = s ∧ r₁ = r := read_inj he
      exact builds_of_declaration o (by rw [hword]; rfl) hs
    · next hword =>
      obtain ⟨⟨s', r₁, h₁⟩, hs, he⟩ := Except.bind_eq_ok_iff.1 he
      obtain ⟨rfl, rfl⟩ : s' = s ∧ r₁ = r := read_inj he
      exact builds_of_declaration o (by rw [hword]; rfl) hs
    · next hword =>
      obtain ⟨⟨s', r₁, h₁⟩, hs, he⟩ := Except.bind_eq_ok_iff.1 he
      obtain ⟨rfl, rfl⟩ : s' = s ∧ r₁ = r := read_inj he
      exact builds_of_declaration o (by rw [hword]; rfl) hs
    · next hif hfor helse hlet hconst hvar =>
      split at he
      · next op hop =>
        cases ts with
        | nil => cases hop
        | cons t ts => exact builds_of_assignment hop he
      · next hop =>
        refine builds_of_expressionStatement ⟨fun k hk => ?_, fun t ht => ?_⟩ he
        · cases k <;> first | rfl | contradiction
        · obtain ⟨ts, rfl⟩ := List.head?_eq_some_iff.1 ht
          exact hop
  · next hnil hemit hopen hsemicolon hclose hident =>
    cases ts with
    | nil => exact absurd rfl hnil
    | cons t ts =>
      obtain ⟨tok, o⟩ := t
      refine builds_of_expressionStatement ?_ he
      cases tok with
      | emit index => exact hemit index o ts rfl
      | ident word => exact absurd rfl (hident word o ts)
      | punct p =>
        cases p with
        | lbrace => exact hopen o ts rfl
        | semicolon => exact hsemicolon o ts rfl
        | rbrace => exact hclose o ts rfl
        | _ => trivial
      | _ => trivial
termination_by ts.length

/-- All tokens together are statements of the grammar. -/
theorem builds_of_statements {ts : List Token} {body : List Stmt}
    (he : statements ts = .ok body) : Builds .statements ts body [] := by
  rw [statements] at he
  split at he
  · next hempty =>
    obtain rfl : [] = body := Except.ok.inj he
    obtain rfl : ts = [] := List.isEmpty_iff.1 hempty
    exact .done
  · obtain ⟨⟨s, r, h⟩, hs, he⟩ := Except.bind_eq_ok_iff.1 he
    obtain ⟨rest, hrest, he⟩ := Except.bind_eq_ok_iff.1 he
    obtain rfl : s :: rest = body := Except.ok.inj he
    exact .next (builds_of_statement ts hs) (builds_of_statements hrest)
termination_by ts.length

/-! ## what is built -/

/-- A statement has a first token, which closes no block. -/
theorem Builds.exists_cons {ts r : List Token} {s : Stmt} (h : Builds .statement ts s r) :
    ∃ t ts', ts = t :: ts' ∧ t.tok ≠ .punct .rbrace := by
  cases h with
  | @expr t ts r r' e hopens hread hend =>
    refine ⟨t, ts, rfl, fun htok => ?_⟩
    rw [htok] at hopens
    exact hopens
  | _ => exact ⟨_, _, rfl, by simp⟩

section
variable {ts r : List Token} {e : Expr}

/-- The parser reads an expression in parentheses as a condition. -/
theorem exists_condition {o₁ o₂ : Nat} (h : Reads .expression ts e (⟨.punct .rparen, o₂⟩ :: r)) :
    ∃ hlt, condition (⟨.punct .lparen, o₁⟩ :: ts) = .ok (e, ⟨r, hlt⟩) := by
  obtain ⟨hlt, hread⟩ := exists_of_reads_expression h
  refine ⟨Nat.lt_succ_of_lt (Nat.lt_of_succ_lt hlt), ?_⟩
  rw [condition, expect_punct, Except.ok_bind, Left.tail]
  dsimp only
  rw [hread, Except.ok_bind]
  dsimp only
  rw [expect_punct]
  rfl

/-- It reads the head of a loop from its parts. -/
theorem exists_loopHead {front : List Token} {x : String} {kind : LoopKind}
    {o₁ o₂ o₃ o₄ : Nat} (hfront : Declarator front) (hx : Keyword.ofName? x = none)
    (h : Reads .expression ts e (⟨.punct .rparen, o₄⟩ :: r)) :
    ∃ hlt, loopHead (⟨.punct .lparen, o₁⟩ ::
      (front ++ ⟨.ident x, o₂⟩ :: ⟨.ident kind.word, o₃⟩ :: ts)) =
        .ok ((x, kind, e), ⟨r, hlt⟩) := by
  obtain ⟨hlt, hread⟩ := exists_of_reads_expression h
  refine ⟨by simp at hlt ⊢; omega, ?_⟩
  rw [loopHead, expect_punct, Except.ok_bind, Left.tail]
  dsimp only
  have hskip := skipDeclarator_append hfront hx o₂ (⟨.ident kind.word, o₃⟩ :: ts)
  generalize skipDeclarator (front ++ ⟨.ident x, o₂⟩ :: ⟨.ident kind.word, o₃⟩ :: ts) = left
    at hskip ⊢
  obtain ⟨r₁, h₁⟩ := left
  obtain rfl : r₁ = _ := hskip
  rw [name_ident hx, Except.ok_bind]
  dsimp only [Left.tail]
  rw [loopKind_word, Except.ok_bind]
  dsimp only [Left.tail]
  rw [hread, Except.ok_bind]
  dsimp only
  rw [expect_punct]
  rfl

/-- It reads a name that no mark of assignment follows as a declaration without a value. -/
theorem exists_declaration {x : String} {o : Nat} (hx : Keyword.ofName? x = none)
    (hnext : Next (· ≠ .punct .assign) r) :
    ∃ hlt, declaration (⟨.ident x, o⟩ :: r) =
      .ok (.declare x none, ⟨(skipSemicolon r).1, hlt⟩) := by
  refine ⟨Nat.lt_succ_of_le (skipSemicolon r).2, ?_⟩
  rw [declaration, name_ident hx, Except.ok_bind]
  dsimp only [Left.tail]
  rw [eat?_eq_none_iff.2 hnext]
  rfl

/-- It reads a name with a value as a declaration of both. -/
theorem exists_declaration_as {x : String} {o o₂ : Nat} (hx : Keyword.ofName? x = none)
    (h : Reads .expression ts e r) :
    ∃ hlt, declaration (⟨.ident x, o⟩ :: ⟨.punct .assign, o₂⟩ :: ts) =
      .ok (.declare x (some e), ⟨(skipSemicolon r).1, hlt⟩) := by
  obtain ⟨hlt, hread⟩ := exists_of_reads_expression h
  have hle := (skipSemicolon r).2
  refine ⟨by simp; omega, ?_⟩
  rw [declaration, name_ident hx, Except.ok_bind]
  dsimp only [Left.tail]
  rw [eat?_punct]
  dsimp only [Left.tail]
  rw [hread]
  rfl

/-- It reads a name, a mark of assignment and a value as an assignment. -/
theorem exists_assignment {t : Token} {x : String} {o : Nat} {op : AssignOp}
    (hx : Keyword.ofName? x = none) (h : Reads .expression ts e r) :
    ∃ hlt, assignment op (⟨.ident x, o⟩ :: t :: ts) =
      .ok (.assign x op e, ⟨(skipSemicolon r).1, hlt⟩) := by
  obtain ⟨hlt, hread⟩ := exists_of_reads_expression h
  have hle := (skipSemicolon r).2
  refine ⟨by simp; omega, ?_⟩
  rw [assignment, name_ident hx, Except.ok_bind]
  dsimp only [Left.tail, LeftOrAll.drop, List.drop]
  rw [hread]
  rfl

/-- It reads an expression as a statement. -/
theorem exists_expressionStatement (h : Reads .expression ts e r) :
    ∃ hlt, expressionStatement ts = .ok (.expr e, ⟨(skipSemicolon r).1, hlt⟩) := by
  obtain ⟨hlt, hread⟩ := exists_of_reads_expression h
  refine ⟨Nat.lt_of_le_of_lt (skipSemicolon r).2 hlt, ?_⟩
  rw [expressionStatement, hread]
  rfl

/-- A token that begins no other statement begins an expression. -/
theorem statement_of_opensExpression {t : Token} (h : OpensExpression t.tok ts) :
    statement (t :: ts) = expressionStatement (t :: ts) := by
  obtain ⟨tok, o⟩ := t
  cases tok with
  | emit index => exact h.elim
  | number x => rw [statement] <;> simp
  | string s => rw [statement] <;> simp
  | punct p =>
    cases p with
    | lbrace => exact h.elim
    | semicolon => exact h.elim
    | rbrace => exact h.elim
    | _ => rw [statement] <;> simp
  | ident word =>
    obtain ⟨hword, hnext⟩ := h
    have hop : nextAssignOp? ts = none := by
      cases ts with
      | nil => rfl
      | cons t ts => exact next_cons.1 hnext
    rw [statement, hop]
    cases hk : Keyword.ofName? word with
    | none => rfl
    | some k =>
      have hopens := hword k hk
      cases k with
      | inWord => rfl
      | trueWord => rfl
      | falseWord => rfl
      | nullWord => rfl
      | undefinedWord => rfl
      | _ => cases hopens

/-- A word that declares begins a declaration. -/
theorem exists_statement_of_declares {word : String} {o : Nat} {s : Stmt}
    (hword : (Keyword.ofName? word).any Keyword.declares = true)
    (h : ∃ hlt, declaration ts = .ok (s, ⟨r, hlt⟩)) :
    ∃ hlt, statement (⟨.ident word, o⟩ :: ts) = .ok (s, ⟨r, hlt⟩) := by
  obtain ⟨hlt, hread⟩ := h
  refine ⟨Nat.lt_succ_of_lt hlt, ?_⟩
  rw [statement, hread]
  cases hk : Keyword.ofName? word with
  | none =>
    rw [hk] at hword
    cases hword
  | some k =>
    rw [hk] at hword
    cases k with
    | letWord => rfl
    | constWord => rfl
    | varWord => rfl
    | _ => cases hword

end

/-- What the parser makes of tokens that a clause can be built from. -/
def Accepted : (c : Clause) → List Token → c.Value → List Token → Prop
  | .statement, ts, s, r => ∃ h, statement ts = .ok (s, ⟨r, h⟩)
  | .statements, ts, body, r =>
    (∀ o r', r = ⟨.punct .rbrace, o⟩ :: r' → ∃ h, block ts = .ok (body, ⟨r', h⟩)) ∧
      (r = [] → statements ts = .ok body)

/-- **The parser is complete**: it reads every clause of the grammar. -/
theorem accepted_of_builds {c : Clause} {ts r : List Token} {v : c.Value} (h : Builds c ts v r) :
    Accepted c ts v r := by
  induction h with
  | emit =>
    refine ⟨by simp, ?_⟩
    rw [statement]
    rfl
  | empty =>
    refine ⟨by simp, ?_⟩
    rw [statement]
    rfl
  | block hbody ih =>
    obtain ⟨h, hread⟩ := ih.1 _ _ rfl
    refine ⟨Nat.lt_succ_of_lt h, ?_⟩
    rw [statement, hread]
    rfl
  | @branch ts r₁ r word e yes o o₁ o₂ hword hread hyes helse ih =>
    obtain ⟨h, hcondition⟩ := exists_condition hread
    obtain ⟨h₁, hread₁⟩ := ih
    refine ⟨Nat.lt_succ_of_lt (Nat.lt_trans h₁ h), ?_⟩
    rw [statement, hword]
    dsimp only
    rw [Parse.branch, hcondition, Except.ok_bind]
    dsimp only
    rw [hread₁, Except.ok_bind]
    dsimp only
    rw [helse]
    rfl
  | branchElse hword hread hyes helse hno ih ih₁ =>
    obtain ⟨h, hcondition⟩ := exists_condition hread
    obtain ⟨h₁, hread₁⟩ := ih
    obtain ⟨h₂, hread₂⟩ := ih₁
    refine ⟨Nat.lt_succ_of_lt (Nat.lt_trans h₂
      (Nat.lt_trans (Nat.lt_of_succ_lt h₁) h)), ?_⟩
    rw [statement, hword]
    dsimp only
    rw [Parse.branch, hcondition, Except.ok_bind]
    dsimp only
    rw [hread₁, Except.ok_bind]
    dsimp only
    rw [eatKeyword?_ident helse]
    dsimp only [Left.tail]
    rw [hread₂]
    rfl
  | loop hword hfront hx hread hbody ih =>
    obtain ⟨h, hhead⟩ := exists_loopHead hfront hx hread
    obtain ⟨h₁, hread₁⟩ := ih
    refine ⟨Nat.lt_succ_of_lt (Nat.lt_trans h₁ h), ?_⟩
    rw [statement, hword]
    dsimp only
    rw [hhead, Except.ok_bind]
    dsimp only
    rw [hread₁]
    rfl
  | declare hword hx hnext hend =>
    subst hend
    exact exists_statement_of_declares hword (exists_declaration hx hnext)
  | declareAs hword hx hread hend =>
    subst hend
    exact exists_statement_of_declares hword (exists_declaration_as hx hread)
  | assign hx hop hread hend =>
    subst hend
    obtain ⟨h, hassign⟩ := exists_assignment hx hread
    refine ⟨h, ?_⟩
    rw [statement, hx]
    dsimp only [nextAssignOp?]
    rw [hop]
    exact hassign
  | expr hopens hread hend =>
    subst hend
    rw [Accepted, statement_of_opensExpression hopens]
    exact exists_expressionStatement hread
  | @done r =>
    refine ⟨fun o r' hr => ?_, fun hr => ?_⟩
    · subst hr
      refine ⟨Nat.lt_succ_self _, ?_⟩
      rw [Parse.block, eat?_punct]
      rfl
    · subst hr
      rw [statements]
      rfl
  | @next ts r r' s body hs hbody ih ih₁ =>
    obtain ⟨h, hread⟩ := ih
    obtain ⟨t, ts, rfl, ht⟩ := hs.exists_cons
    refine ⟨fun o r'' hr => ?_, fun hr => ?_⟩
    · obtain ⟨h₁, hread₁⟩ := ih₁.1 o r'' hr
      refine ⟨Nat.lt_trans h₁ h, ?_⟩
      rw [Parse.block, eat?_eq_none_iff.2 (next_cons.2 ht)]
      dsimp only
      rw [if_neg (by simp), hread, Except.ok_bind]
      dsimp only
      rw [hread₁]
      rfl
    · rw [statements, if_neg (by simp), hread, Except.ok_bind]
      dsimp only
      rw [ih₁.2 hr]
      rfl

/-- The parser builds the statements of the grammar. -/
theorem statements_eq_ok_iff {ts : List Token} {body : List Stmt} :
    statements ts = .ok body ↔ Builds .statements ts body [] :=
  ⟨builds_of_statements, fun h => (accepted_of_builds h).2 rfl⟩

end Stencil.Script.Parse
