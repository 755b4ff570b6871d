import Stencil.Proofs.Script.Clause
import Stencil.Proofs.Script.Cursor

/-!
# Stencil.Proofs.Script.Progress

Parsing ends, and what is read takes tokens. The statements are followed as the expressions
are, by runs over positions with a limit on the depth of calls (`runStretch`). For every list
of tokens and every position in it, a run with a limit that grows with the number of tokens
left is not cut off; if it reads something, it stands further on then, and not behind the last
token; and in all it ends as the parser does that takes tokens off a list: `parsing_ends`.
-/

namespace Stencil.Script.Parse

/-! ## stretches of statements -/

/-- What is read of statements by one function, or by one loop. -/
inductive Stretch where
  | statement
  | block
  /-- The statements of a block and its closing brace. -/
  | blockRest
  /-- All statements to the end. -/
  | program

/-- What a stretch is read as. -/
abbrev Stretch.Value : Stretch → Type
  | .statement | .block => Stmt
  | .blockRest | .program => List Stmt

section
variable (ts : List Token)

/-- Whether the keyword `k` stands at a position. -/
def keywordAt (k : Keyword) (pos : Nat) : Bool :=
  match tokAt? ts pos with
  | some (.ident word) => Keyword.ofName? word = some k
  | _ => false

/-- Reads a name, which no keyword is. -/
def nameAt (pos : Nat) : Ran String :=
  match tokAt? ts pos with
  | some (.ident name) =>
    if (Keyword.ofName? name).isSome then .fails .expectedIdentifier pos else .gives name (pos + 1)
  | _ => .fails .expectedIdentifier pos

/-- The position after a semicolon, if one stands at `pos`. -/
def pastSemicolon (pos : Nat) : Nat := if standsAt ts .semicolon pos then pos + 1 else pos

/-- The position after a keyword that declares variables, if one stands at `pos`. -/
def pastDeclarator (pos : Nat) : Nat :=
  match tokAt? ts pos with
  | some (.ident name) =>
    if (Keyword.ofName? name).any Keyword.declares then pos + 1 else pos
  | _ => pos

/-- Reads the word that says what a loop runs over. -/
def loopKindAt (pos : Nat) : Ran LoopKind :=
  match tokAt? ts pos with
  | some (.ident name) =>
    if name = "of" then .gives .of (pos + 1)
    else if name = "in" then .gives .keys (pos + 1)
    else .fails .expectedOfOrIn pos
  | _ => .fails .expectedOfOrIn pos

/-- Reads a declaration after its keyword. -/
def declarationAt (limit pos : Nat) : Ran Stmt :=
  (nameAt ts pos).andThen fun x pos =>
    if standsAt ts .assign pos then
      (follow ts limit .expression (pos + 1)).andThen fun e pos =>
        .gives (.declare x (some e)) (pastSemicolon ts pos)
    else .gives (.declare x none) (pastSemicolon ts pos)

/-- Reads an assignment. Its sign is known to stand after the name. -/
def assignmentAt (limit : Nat) (op : AssignOp) (pos : Nat) : Ran Stmt :=
  (nameAt ts pos).andThen fun x pos =>
    (follow ts limit .expression (pos + 1)).andThen fun e pos =>
      .gives (.assign x op e) (pastSemicolon ts pos)

/-- Reads an expression as a statement. -/
def expressionStatementAt (limit pos : Nat) : Ran Stmt :=
  (follow ts limit .expression pos).andThen fun e pos => .gives (.expr e) (pastSemicolon ts pos)

/-- Reads the expression in the parentheses after `if`. -/
def conditionAt (limit pos : Nat) : Ran Expr :=
  (expectAt ts .lparen pos).andThen fun _ pos =>
    (follow ts limit .expression pos).andThen fun e pos =>
      (expectAt ts .rparen pos).andThen fun _ pos => .gives e pos

/-- Reads what stands in the parentheses after `for`. -/
def loopHeadAt (limit pos : Nat) : Ran (String × LoopKind × Expr) :=
  (expectAt ts .lparen pos).andThen fun _ pos =>
    (nameAt ts (pastDeclarator ts pos)).andThen fun x pos =>
      (loopKindAt ts pos).andThen fun kind pos =>
        (follow ts limit .expression pos).andThen fun e pos =>
          (expectAt ts .rparen pos).andThen fun _ pos => .gives (x, kind, e) pos

/-- Reads a stretch of statements from a position on, with at most `limit` calls inside each
other. -/
def runStretch : (limit : Nat) → (s : Stretch) → (pos : Nat) → Ran s.Value
  | 0, _, _ => .cut
  | k + 1, .statement, pos =>
    match tokAt? ts pos with
    | some (.emit index) => .gives (.emit index) (pos + 1)
    | some (.punct .lbrace) => runStretch k .block pos
    | some (.punct .semicolon) => .gives .empty (pos + 1)
    | some (.punct .rbrace) => .fails .unexpectedClose pos
    | some (.ident word) =>
      match Keyword.ofName? word with
      | some .ifWord =>
        (conditionAt ts k (pos + 1)).andThen fun e pos =>
          (runStretch k .statement pos).andThen fun yes pos =>
            if keywordAt ts .elseWord pos then
              (runStretch k .statement (pos + 1)).andThen fun no pos =>
                .gives (.branch e yes (some no)) pos
            else .gives (.branch e yes none) pos
      | some .forWord =>
        (loopHeadAt ts k (pos + 1)).andThen fun (x, kind, e) pos =>
          (runStretch k .statement pos).andThen fun body pos => .gives (kind.loop x e body) pos
      | some .elseWord => .fails .elseWithoutIf pos
      | some .letWord | some .constWord | some .varWord => declarationAt ts k (pos + 1)
      | _ =>
        match (tokAt? ts (pos + 1)).bind assignOp? with
        | some op => assignmentAt ts k op pos
        | none => expressionStatementAt ts k pos
    | _ => expressionStatementAt ts k pos
  | k + 1, .block, pos =>
    (expectAt ts .lbrace pos).andThen fun _ pos =>
      (runStretch k .blockRest pos).andThen fun body pos => .gives (.block body) pos
  | k + 1, .blockRest, pos =>
    if standsAt ts .rbrace pos then .gives [] (pos + 1)
    else if tokAt? ts pos = none then .fails .unclosedBlock pos
    else
      (runStretch k .statement pos).andThen fun s pos =>
        (runStretch k .blockRest pos).andThen fun rest pos => .gives (s :: rest) pos
  | k + 1, .program, pos =>
    if tokAt? ts pos = none then .gives [] pos
    else
      (runStretch k .statement pos).andThen fun s pos =>
        (runStretch k .program pos).andThen fun rest pos => .gives (s :: rest) pos

/-- Reads all tokens as one expression. -/
def expressionOnlyAt (limit : Nat) : Ran Expr :=
  (follow ts limit .expression 0).andThen fun e pos =>
    if tokAt? ts pos = none then .gives e pos else .fails .afterExpression pos

end

/-- What the parser reads as a stretch. -/
def readStretch : (s : Stretch) → List Token → Except ParseError (s.Value × List Token)
  | .statement, ts => (statement ts).map forget
  | .block, ts => (do
      let r ← expect .lbrace ts
      let (body, r₁) ← block r.1
      return (.block body, r.andThen r₁) : Parsed Stmt ts).map forget
  | .blockRest, ts => (block ts).map forget
  | .program, ts => (statements ts).map fun body => (body, [])

/-! ## words and names -/

section
variable (ts : List Token) (pos : Nat)

/-- A name at a position is the name in front of the tokens from there on. -/
theorem name_drop :
    (nameAt ts pos = .fails .expectedIdentifier pos ∧
      name (ts.drop pos) = .error ⟨.expectedIdentifier, ts.drop pos⟩) ∨
    ∃ x hlt, pos < ts.length ∧ nameAt ts pos = .gives x (pos + 1) ∧
      name (ts.drop pos) = .ok (x, ⟨ts.drop (pos + 1), hlt⟩) := by
  obtain ⟨hdrop, htok⟩ | ⟨⟨tok, o⟩, hdrop, htok, hpos⟩ := drop_eq_nil_or_cons ts pos
  · rw [nameAt, htok, hdrop]
    exact .inl ⟨rfl, rfl⟩
  · rw [nameAt, htok, hdrop]
    cases tok with
    | ident x =>
      rw [name]
      dsimp only
      split
      · exact .inl ⟨rfl, rfl⟩
      · exact .inr ⟨x, Nat.lt_succ_self _, hpos, rfl, rfl⟩
    | _ => exact .inl ⟨rfl, rfl⟩

/-- So is the word for the kind of a loop. -/
theorem loopKind_drop :
    (loopKindAt ts pos = .fails .expectedOfOrIn pos ∧
      loopKind (ts.drop pos) = .error ⟨.expectedOfOrIn, ts.drop pos⟩) ∨
    ∃ kind hlt, pos < ts.length ∧ loopKindAt ts pos = .gives kind (pos + 1) ∧
      loopKind (ts.drop pos) = .ok (kind, ⟨ts.drop (pos + 1), hlt⟩) := by
  obtain ⟨hdrop, htok⟩ | ⟨⟨tok, o⟩, hdrop, htok, hpos⟩ := drop_eq_nil_or_cons ts pos
  · rw [loopKindAt, htok, hdrop]
    exact .inl ⟨rfl, rfl⟩
  · rw [loopKindAt, htok, hdrop]
    cases tok with
    | ident x =>
      rw [loopKind]
      dsimp only
      split
      · exact .inr ⟨_, Nat.lt_succ_self _, hpos, rfl, rfl⟩
      split
      · exact .inr ⟨_, Nat.lt_succ_self _, hpos, rfl, rfl⟩
      · exact .inl ⟨rfl, rfl⟩
    | _ => exact .inl ⟨rfl, rfl⟩

/-- A keyword at a position is taken off the tokens from there on. -/
theorem eatKeyword?_drop (k : Keyword) :
    (keywordAt ts k pos = false ∧ eatKeyword? k (ts.drop pos) = none) ∨
    ∃ hlt, pos < ts.length ∧ keywordAt ts k pos = true ∧
      eatKeyword? k (ts.drop pos) = some ⟨ts.drop (pos + 1), hlt⟩ := by
  obtain ⟨hdrop, htok⟩ | ⟨⟨tok, o⟩, hdrop, htok, hpos⟩ := drop_eq_nil_or_cons ts pos
  · rw [keywordAt, htok, hdrop]
    exact .inl ⟨rfl, rfl⟩
  · rw [keywordAt, htok, hdrop]
    cases tok with
    | ident x =>
      rw [eatKeyword?]
      by_cases hk : Keyword.ofName? x = some k
      · exact .inr ⟨Nat.lt_succ_self _, hpos, decide_eq_true hk, if_pos hk⟩
      · exact .inl ⟨decide_eq_false hk, if_neg hk⟩
    | _ => exact .inl ⟨rfl, rfl⟩

/-- An operator that assigns is looked for at the position. -/
theorem nextAssignOp?_drop : nextAssignOp? (ts.drop pos) = (tokAt? ts pos).bind assignOp? := by
  obtain ⟨hdrop, htok⟩ | ⟨t, hdrop, htok, hpos⟩ := drop_eq_nil_or_cons ts pos
  · rw [htok, hdrop]
    rfl
  · rw [htok, hdrop]
    rfl

variable {ts pos}

/-- Moving past a semicolon is skipping it. -/
theorem skipSemicolon_drop (hpos : pos ≤ ts.length) : pastSemicolon ts pos ≤ ts.length ∧
    (skipSemicolon (ts.drop pos)).1 = ts.drop (pastSemicolon ts pos) := by
  rw [pastSemicolon, skipSemicolon]
  obtain ⟨hat, heat⟩ | ⟨hat, hnext, hlt, heat⟩ := eat?_drop ts .semicolon pos
  · rw [hat, heat]
    exact ⟨hpos, rfl⟩
  · rw [hat, heat]
    exact ⟨hnext, rfl⟩

/-- Moving past a declarator is skipping it. -/
theorem skipDeclarator_drop (hpos : pos ≤ ts.length) :
    pos ≤ pastDeclarator ts pos ∧ pastDeclarator ts pos ≤ ts.length ∧
      (skipDeclarator (ts.drop pos)).1 = ts.drop (pastDeclarator ts pos) := by
  obtain ⟨hdrop, htok⟩ | ⟨⟨tok, o⟩, hdrop, htok, hnext⟩ := drop_eq_nil_or_cons ts pos
  · rw [pastDeclarator, htok, hdrop]
    exact ⟨Nat.le_refl _, hpos, rfl⟩
  · rw [pastDeclarator, htok, hdrop]
    cases tok with
    | ident x =>
      rw [skipDeclarator]
      dsimp only
      split
      · exact ⟨Nat.le_succ _, hnext, rfl⟩
      · exact ⟨Nat.le_refl _, hpos, hdrop.symm⟩
    | _ => exact ⟨Nat.le_refl _, hpos, hdrop.symm⟩

end

/-! ## statements without statements inside -/

section
variable {ts : List Token} {limit pos : Nat}

/-- An expression that stands as a statement costs what the expression costs. -/
theorem agrees_expressionStatement (hpos : pos ≤ ts.length)
    (hlimit : 6 * (ts.length - pos) + 4 < limit) :
    Agrees ts (expressionStatementAt ts limit pos)
      ((expressionStatement (ts.drop pos)).map forget) := by
  rw [expressionStatementAt, expressionStatement]
  refine (agrees_follow ts limit .expression pos hpos hlimit).andThen
    fun e pos₁ hlt hmoved hpos₁ => ?_
  obtain ⟨hle, hskip⟩ := skipSemicolon_drop hpos₁
  exact .gives hle hskip

/-- A declaration begins with its name, so its value is further on. -/
theorem agrees_declaration (hlimit : 6 * (ts.length - pos) < limit) :
    Agrees ts (declarationAt ts limit pos) ((declaration (ts.drop pos)).map forget) := by
  rw [declarationAt, declaration]
  obtain ⟨hrun, hname⟩ | ⟨x, hlt, hnext, hrun, hname⟩ := name_drop ts pos
  · rw [hrun, hname]
    exact .fails rfl
  · rw [hrun, hname, Ran.andThen, Except.ok_bind]
    dsimp only
    obtain ⟨hat, heat⟩ | ⟨hat, hnext₁, hlt₁, heat⟩ := eat?_drop ts .assign (pos + 1)
    · rw [hat, heat]
      obtain ⟨hle, hskip⟩ := skipSemicolon_drop hnext
      exact .gives hle hskip
    · rw [hat, heat]
      refine (agrees_follow ts limit .expression (pos + 1 + 1) hnext₁
        (by simp only [Phrase.rank]; omega)).andThen fun e pos₁ hlt hmoved hpos₁ => ?_
      obtain ⟨hle, hskip⟩ := skipSemicolon_drop hpos₁
      exact .gives hle hskip

/-- An assignment begins with a name and a mark, so its value is further on. -/
theorem agrees_assignment {op : AssignOp} (hnext : pos + 1 < ts.length)
    (hlimit : 6 * (ts.length - pos) < limit) :
    Agrees ts (assignmentAt ts limit op pos) ((assignment op (ts.drop pos)).map forget) := by
  rw [assignmentAt, assignment]
  obtain ⟨hrun, hname⟩ | ⟨x, hlt, hpos, hrun, hname⟩ := name_drop ts pos
  · rw [hrun, hname]
    exact .fails rfl
  · rw [hrun, hname, Ran.andThen, Except.ok_bind]
    dsimp only
    have hsign : (LeftOrAll.drop 1 (ts.drop (pos + 1))).1 = ts.drop (pos + 1 + 1) :=
      List.drop_drop ..
    generalize LeftOrAll.drop 1 (ts.drop (pos + 1)) = sign at hsign ⊢
    obtain ⟨r, hle⟩ := sign
    obtain rfl : r = ts.drop (pos + 1 + 1) := hsign
    refine (agrees_follow ts limit .expression (pos + 1 + 1) hnext
      (by simp only [Phrase.rank]; omega)).andThen fun e pos₁ hlt hmoved hpos₁ => ?_
    obtain ⟨hle, hskip⟩ := skipSemicolon_drop hpos₁
    exact .gives hle hskip

/-- A condition begins with a parenthesis, so its expression is further on. -/
theorem agrees_condition (hlimit : 6 * (ts.length - pos) < limit) :
    Agrees ts (conditionAt ts limit pos) ((condition (ts.drop pos)).map forget) := by
  rw [conditionAt, condition]
  refine .expect fun hlt hnext => ?_
  refine (agrees_follow ts limit .expression (pos + 1) hnext
    (by simp only [Phrase.rank]; omega)).andThen fun e pos₁ hlt₁ hmoved hpos₁ => ?_
  exact .expect fun hlt₂ hnext₂ => .gives hnext₂ rfl

/-- The head of a loop has its expression further on, too. -/
theorem agrees_loopHead (hlimit : 6 * (ts.length - pos) < limit) :
    Agrees ts (loopHeadAt ts limit pos) ((loopHead (ts.drop pos)).map forget) := by
  rw [loopHeadAt, loopHead]
  refine .expect fun hlt hnext => ?_
  obtain ⟨hpast, hle, hskip⟩ := skipDeclarator_drop hnext
  dsimp only
  generalize skipDeclarator (ts.drop (pos + 1)) = skipped at hskip ⊢
  obtain ⟨r, hskipped⟩ := skipped
  obtain rfl : r = ts.drop (pastDeclarator ts (pos + 1)) := hskip
  generalize pastDeclarator ts (pos + 1) = pos₁ at hpast hle hskipped ⊢
  obtain ⟨hrun, hname⟩ | ⟨x, hlt₁, hnext₁, hrun, hname⟩ := name_drop ts pos₁
  · rw [hrun, hname]
    exact .fails rfl
  rw [hrun, hname, Ran.andThen, Except.ok_bind]
  dsimp only
  obtain ⟨hrun, hkind⟩ | ⟨kind, hlt₂, hnext₂, hrun, hkind⟩ := loopKind_drop ts (pos₁ + 1)
  · rw [hrun, hkind]
    exact .fails rfl
  rw [hrun, hkind, Ran.andThen, Except.ok_bind]
  dsimp only
  refine (agrees_follow ts limit .expression (pos₁ + 1 + 1) hnext₂
    (by simp only [Phrase.rank]; omega)).andThen fun e pos₂ hlt₃ hmoved hpos₂ => ?_
  exact .expect fun hlt₄ hnext₄ => .gives hnext₄ rfl

end

/-! ## statements -/

/-- The place of a stretch among those that are read from the same position. -/
def Stretch.rank : Stretch → Nat
  | .block => 4
  | .statement => 5
  | .blockRest | .program => 6

/-- The runs with the limit `k` agree that have enough calls left. -/
def StretchesBelow (ts : List Token) (k : Nat) : Prop :=
  ∀ (s : Stretch) (pos : Nat), pos ≤ ts.length → 6 * (ts.length - pos) + s.rank < k →
    Agrees ts (runStretch ts k s pos) (readStretch s (ts.drop pos))

section
variable {ts : List Token} {k pos : Nat}

/-- A conditional statement after its `if`. -/
theorem agrees_branch (ih : StretchesBelow ts k) (hcost : 6 * (ts.length - pos) + 5 < k) :
    Agrees ts ((conditionAt ts k pos).andThen fun e pos =>
        (runStretch ts k .statement pos).andThen fun yes pos =>
          if keywordAt ts .elseWord pos then
            (runStretch ts k .statement (pos + 1)).andThen fun no pos =>
              .gives (.branch e yes (some no)) pos
          else .gives (.branch e yes none) pos)
      ((branch (ts.drop pos)).map forget) := by
  rw [branch]
  refine (agrees_condition (by omega)).andThen fun e pos₁ hlt hmoved hpos₁ => ?_
  refine (ih .statement pos₁ hpos₁ (by simp only [Stretch.rank]; omega)).andThen
    fun yes pos₂ hlt₁ hmoved₁ hpos₂ => ?_
  dsimp only
  obtain ⟨hat, heat⟩ | ⟨hlt₂, hnext, hat, heat⟩ := eatKeyword?_drop ts pos₂ .elseWord
  · rw [hat, heat]
    exact .gives hpos₂ rfl
  · rw [hat, heat]
    refine (ih .statement (pos₂ + 1) hnext (by simp only [Stretch.rank]; omega)).andThen
      fun no pos₃ hlt₃ hmoved₂ hpos₃ => ?_
    exact .gives hpos₃ rfl

/-- One more call reads a statement if the calls before agree. -/
theorem agrees_statement (ih : StretchesBelow ts k) (hpos : pos ≤ ts.length)
    (hcost : 6 * (ts.length - pos) + 5 ≤ k) :
    Agrees ts (runStretch ts (k + 1) .statement pos) (readStretch .statement (ts.drop pos)) := by
  have hexpression : Agrees ts (expressionStatementAt ts k pos)
      ((expressionStatement (ts.drop pos)).map forget) := agrees_expressionStatement hpos hcost
  rw [runStretch]
  obtain ⟨hdrop, htok⟩ | ⟨⟨tok, o⟩, hdrop, htok, hnext⟩ := drop_eq_nil_or_cons ts pos
  · rw [hdrop] at hexpression
    rw [htok, hdrop, readStretch]
    unfold statement
    exact hexpression
  · have hblock := ih .block pos hpos (by simp only [Stretch.rank]; omega)
    -- a name begins an assignment or an expression
    have hnamed : Agrees ts
        (match (tokAt? ts (pos + 1)).bind assignOp? with
          | some op => assignmentAt ts k op pos
          | none => expressionStatementAt ts k pos)
        ((match nextAssignOp? (ts.drop (pos + 1)) with
          | some op => assignment op (ts.drop pos)
          | none => expressionStatement (ts.drop pos)).map forget) := by
      rw [nextAssignOp?_drop]
      obtain ⟨-, htok₁⟩ | ⟨t, -, htok₁, hnext₁⟩ := drop_eq_nil_or_cons ts (pos + 1)
      · rw [htok₁]
        exact hexpression
      · rw [htok₁, Option.bind_some]
        cases assignOp? t.tok with
        | none => exact hexpression
        | some op => exact agrees_assignment hnext₁ (by omega)
    rw [hdrop] at hexpression hblock hnamed
    rw [htok, hdrop, readStretch]
    unfold statement
    cases tok with
    | emit index => exact .gives hnext rfl
    | ident word =>
      dsimp only
      cases Keyword.ofName? word with
      | none => exact hnamed
      | some keyword =>
        cases keyword with
        | ifWord => exact (agrees_branch ih (by omega)).last fun _ => rfl
        | forWord =>
          refine (agrees_loopHead (by omega)).andThen fun head pos₁ hlt hmoved hpos₁ => ?_
          refine (ih .statement pos₁ hpos₁ (by simp only [Stretch.rank]; omega)).andThen
            fun body pos₂ hlt₁ hmoved₁ hpos₂ => ?_
          exact .gives hpos₂ rfl
        | elseWord => exact .fails hdrop.symm
        | letWord | constWord | varWord =>
          exact (agrees_declaration (by omega)).last fun _ => rfl
        | _ => exact hnamed
    | punct p =>
      cases p with
      | lbrace =>
        rw [readStretch, expect_punct, Except.ok_bind] at hblock
        exact hblock
      | semicolon => exact .gives hnext rfl
      | rbrace => exact .fails hdrop.symm
      | _ => exact hexpression
    | _ => exact hexpression

/-- One more call reads a block. -/
theorem agrees_block (ih : StretchesBelow ts k) (hcost : 6 * (ts.length - pos) + 4 ≤ k) :
    Agrees ts (runStretch ts (k + 1) .block pos) (readStretch .block (ts.drop pos)) := by
  rw [runStretch, readStretch]
  refine .expect fun hlt hnext => ?_
  refine (ih .blockRest (pos + 1) hnext (by simp only [Stretch.rank]; omega)).andThen
    fun body pos₁ hlt₁ hmoved hpos₁ => ?_
  exact .gives hpos₁ rfl

/-- Nothing is left where there is no token. -/
theorem isEmpty_drop (ts : List Token) (pos : Nat) :
    (ts.drop pos).isEmpty = decide (tokAt? ts pos = none) := by
  obtain ⟨hdrop, htok⟩ | ⟨t, hdrop, htok, hnext⟩ := drop_eq_nil_or_cons ts pos
  · rw [hdrop, htok]
    rfl
  · rw [hdrop, htok]
    rfl

/-- One more call reads the rest of a block, statement by statement. -/
theorem agrees_blockRest (ih : StretchesBelow ts k) (hpos : pos ≤ ts.length)
    (hcost : 6 * (ts.length - pos) + 6 ≤ k) :
    Agrees ts (runStretch ts (k + 1) .blockRest pos) (readStretch .blockRest (ts.drop pos)) := by
  rw [runStretch, readStretch, block, isEmpty_drop]
  obtain ⟨hat, heat⟩ | ⟨hat, hnext, hlt, heat⟩ := eat?_drop ts .rbrace pos
  · rw [hat, heat]
    by_cases hend : tokAt? ts pos = none
    · rw [if_pos hend, decide_eq_true hend]
      exact .fails rfl
    · rw [if_neg hend, decide_eq_false hend]
      refine (ih .statement pos hpos (by simp only [Stretch.rank]; omega)).andThen
        fun s pos₁ hlt hmoved hpos₁ => ?_
      refine (ih .blockRest pos₁ hpos₁ (by simp only [Stretch.rank]; omega)).andThen
        fun rest pos₂ hlt₁ hmoved₁ hpos₂ => ?_
      exact .gives hpos₂ rfl
  · rw [hat, heat]
    exact .gives hnext rfl

/-- One more call reads the statements of a whole script. -/
theorem agrees_program (ih : StretchesBelow ts k) (hpos : pos ≤ ts.length)
    (hcost : 6 * (ts.length - pos) + 6 ≤ k) :
    Agrees ts (runStretch ts (k + 1) .program pos) (readStretch .program (ts.drop pos)) := by
  rw [runStretch, readStretch, statements, isEmpty_drop]
  by_cases hend : tokAt? ts pos = none
  · rw [if_pos hend, decide_eq_true hend]
    refine .gives hpos ?_
    obtain ⟨hdrop, -⟩ | ⟨t, -, htok, -⟩ := drop_eq_nil_or_cons ts pos
    · exact hdrop.symm
    · rw [hend] at htok
      cases htok
  · rw [if_neg hend, decide_eq_false hend]
    refine (ih .statement pos hpos (by simp only [Stretch.rank]; omega)).andThen
      fun s pos₁ hlt hmoved hpos₁ => ?_
    have hrest := (ih .program pos₁ hpos₁ (by simp only [Stretch.rank]; omega)).map (s :: ·)
    rw [readStretch] at hrest
    dsimp only
    cases hread : statements (ts.drop pos₁) with
    | error e =>
      rw [hread] at hrest
      exact hrest
    | ok body =>
      rw [hread] at hrest
      exact hrest

/-- **Runs over statements end as the parser does**, by induction on the calls that are left. -/
theorem agrees_runStretch (ts : List Token) (k : Nat) : StretchesBelow ts k := by
  induction k with
  | zero => exact fun s pos _ hcost => absurd hcost (Nat.not_lt_zero _)
  | succ k ih =>
    intro s pos hpos hcost
    replace hcost := Nat.le_of_lt_succ hcost
    cases s with
    | statement => exact agrees_statement ih hpos hcost
    | block => exact agrees_block ih hcost
    | blockRest => exact agrees_blockRest ih hpos hcost
    | program => exact agrees_program ih hpos hcost

/-- So does a run over all tokens as one expression. -/
theorem agrees_expressionOnly (hlimit : 6 * ts.length + 4 < k) :
    Agrees ts (expressionOnlyAt ts k) ((expressionOnly ts).map fun e => (e, [])) := by
  change Agrees ts _ ((expressionOnly (ts.drop 0)).map _)
  rw [expressionOnlyAt, expressionOnly]
  refine (agrees_follow ts k .expression 0 (Nat.zero_le _) hlimit).andThen
    fun e pos hlt hmoved hpos => ?_
  dsimp only
  rw [isEmpty_drop]
  obtain ⟨hdrop, htok⟩ | ⟨t, hdrop, htok, hnext⟩ := drop_eq_nil_or_cons ts pos
  · rw [htok]
    exact .gives hpos hdrop.symm
  · rw [htok]
    exact .fails rfl

end

/-! ## progress -/

/-- The number of tokens that a phrase has at least. What goes on with an expression may have
none. -/
def Phrase.least : Phrase → Nat
  | .binaryRest _ _ | .postfixRest _ => 0
  | _ => 1

/-- The number of tokens that a stretch has at least. -/
def Stretch.least : Stretch → Nat
  | .program => 0
  | _ => 1

/-- A run ends. If it reads something, it stands at `first` or further on, and not behind the
last token. In all it ends as the parser does that takes tokens off a list. -/
structure Advances {α : Type} (ts : List Token) (first : Nat) (x : Ran α)
    (read : Except ParseError (α × List Token)) : Prop where
  ended : x ≠ .cut
  advanced : ∀ v pos, x = .gives v pos → first ≤ pos ∧ pos ≤ ts.length
  agrees : Agrees ts x read

section
variable {ts cs r : List Token}

/-- No phrase takes more than six calls before a token is taken. -/
theorem Phrase.rank_le (p : Phrase) : p.rank ≤ 6 := by
  cases p <;> simp [Phrase.rank]

/-- Nor does any part of a script. -/
theorem Stretch.rank_le (s : Stretch) : s.rank ≤ 6 := by
  cases s <;> decide

/-- A phrase that has to take tokens takes them. -/
theorem least_le_of_readPhrase {p : Phrase} {v : p.Value} (h : readPhrase p cs = .ok (v, r)) :
    r.length + p.least ≤ cs.length := by
  cases p <;> exact (exists_of_forget h).1

/-- So does a part of a script. -/
theorem least_le_of_readStretch {s : Stretch} {v : s.Value} (h : readStretch s cs = .ok (v, r)) :
    r.length + s.least ≤ cs.length := by
  cases s with
  | program =>
    obtain ⟨body, -, heq⟩ := Except.map_eq_ok_iff.1 h
    obtain rfl : [] = r := (Prod.mk.inj heq).2
    exact Nat.zero_le _
  | _ => exact (exists_of_forget h).1

/-- A run that agrees with the parser has moved past the tokens that the parser takes. -/
theorem Agrees.advances {α : Type} {x : Ran α} {read : Except ParseError (α × List Token)}
    {pos least : Nat} (h : Agrees ts x read) (hpos : pos ≤ ts.length)
    (hread : ∀ {v r}, read = .ok (v, r) → r.length + least ≤ (ts.drop pos).length) :
    Advances ts (pos + least) x read := by
  refine ⟨?_, ?_, h⟩
  · rintro rfl
    cases h
  · rintro v pos' rfl
    cases h with
    | gives hle hr =>
      subst hr
      have hlength := hread rfl
      simp only [List.length_drop] at hlength
      omega

variable {limit pos : Nat}

/-- A run that reads a phrase with enough calls ends further on, inside of the tokens. -/
theorem advances_follow (p : Phrase) (hpos : pos ≤ ts.length)
    (hlimit : 6 * (ts.length - pos) + 6 < limit) :
    Advances ts (pos + p.least) (follow ts limit p pos) (readPhrase p (ts.drop pos)) := by
  have hrank := p.rank_le
  exact (agrees_follow ts limit p pos hpos (by omega)).advances hpos least_le_of_readPhrase

/-- So does one that reads a part of a script. -/
theorem advances_runStretch (s : Stretch) (hpos : pos ≤ ts.length)
    (hlimit : 6 * (ts.length - pos) + 6 < limit) :
    Advances ts (pos + s.least) (runStretch ts limit s pos) (readStretch s (ts.drop pos)) := by
  have hrank := s.rank_le
  exact (agrees_runStretch ts limit s pos hpos (by omega)).advances hpos least_le_of_readStretch

/-- So does one that reads all tokens as one expression. -/
theorem advances_expressionOnly (hlimit : 6 * ts.length + 6 < limit) :
    Advances ts 0 (expressionOnlyAt ts limit) ((expressionOnly ts).map fun e => (e, [])) := by
  have hagrees : Agrees ts (expressionOnlyAt ts limit) _ := agrees_expressionOnly (by omega)
  have hadvances : Advances ts (0 + 0) _ _ := hagrees.advances (Nat.zero_le _) fun {v r} h => by
    obtain ⟨e, -, heq⟩ := Except.map_eq_ok_iff.1 h
    obtain rfl : [] = r := (Prod.mk.inj heq).2
    exact Nat.zero_le _
  exact hadvances

end

/-- **Parsing ends and advances.** From every position in a list of tokens, every function of
the parser ends with a mistake or with something that it has read, after no more calls inside
each other, turns of loops included, than six for each token that is left and six more. What
it has read has at least one token, if it is not only what goes on with an expression, and does
not go on behind the last token. So all tokens can be read as statements and as one expression,
or not, within so many calls. The parser of token lists reads and refuses the same. -/
theorem parsing_ends (ts : List Token) :
    (∀ pos limit, pos ≤ ts.length → 6 * (ts.length - pos) + 6 < limit →
      (∀ p : Phrase,
        Advances ts (pos + p.least) (follow ts limit p pos) (readPhrase p (ts.drop pos))) ∧
      ∀ s : Stretch,
        Advances ts (pos + s.least) (runStretch ts limit s pos) (readStretch s (ts.drop pos))) ∧
    ∀ limit, 6 * ts.length + 6 < limit →
      Advances ts 0 (runStretch ts limit .program 0) ((statements ts).map fun body => (body, [])) ∧
      Advances ts 0 (expressionOnlyAt ts limit) ((expressionOnly ts).map fun e => (e, [])) := by
  constructor
  · intro pos limit hpos hlimit
    exact ⟨fun p => advances_follow p hpos hlimit, fun s => advances_runStretch s hpos hlimit⟩
  · intro limit hlimit
    exact ⟨advances_runStretch .program (Nat.zero_le _) hlimit, advances_expressionOnly hlimit⟩

/-- A block that is not closed, and a point after which the tokens end. -/
theorem parsing_ends_unclosed :
    runStretch [⟨.punct .lbrace, 0⟩, ⟨.punct .semicolon, 1⟩] 19 .program 0 =
        .fails .unclosedBlock 2 ∧
      expressionOnlyAt [⟨.ident "z", 0⟩, ⟨.punct .dot, 1⟩] 19 = .fails .expectedProperty 3 ∧
      Advances [⟨.punct .lbrace, 0⟩, ⟨.punct .semicolon, 1⟩] 0 (.fails .unclosedBlock 2)
        ((statements [⟨.punct .lbrace, 0⟩, ⟨.punct .semicolon, 1⟩]).map fun body => (body, [])) ∧
      Advances [⟨.ident "z", 0⟩, ⟨.punct .dot, 1⟩] 0 (.fails .expectedProperty 3)
        ((expressionOnly [⟨.ident "z", 0⟩, ⟨.punct .dot, 1⟩]).map fun e => (e, [])) := by
  have hblock : runStretch [⟨.punct .lbrace, 0⟩, ⟨.punct .semicolon, 1⟩] 19 .program 0 =
      .fails .unclosedBlock 2 := by cbv
  have hpoint : expressionOnlyAt [⟨.ident "z", 0⟩, ⟨.punct .dot, 1⟩] 19 =
      .fails .expectedProperty 3 := by cbv
  have hends := (parsing_ends [⟨.punct .lbrace, 0⟩, ⟨.punct .semicolon, 1⟩]).2 19 (by decide)
  have hends' := (parsing_ends [⟨.ident "z", 0⟩, ⟨.punct .dot, 1⟩]).2 19 (by decide)
  rw [hblock] at hends
  rw [hpoint] at hends'
  exact ⟨hblock, hpoint, hends.1, hends'.2⟩

end Stencil.Script.Parse
