import Stencil.Proofs.Script.Remainder
import Stencil.Proofs.Script.Unfinished

/-!
# Stencil.Proofs.Script.ErrorPlaces

Where a mistake in the code is shown. The tokens that the parser of statements, or the one
of expressions, had gone over when it found the mistake are the front of tokens that it
accepts, so the mistake lies with the next one (`mistakes_after_unfinished`). What is shown
(`ParseError.toError`) ends before that token, with one exception: a token after a point that
is no name is shown with the code before it, although nothing goes on from there.
-/

namespace Stencil.Script.Parse

/-! ## fronts of statements -/

/-- The tokens can be finished to a statement, in front of all that ends one. -/
def Completes (front : List Token) : Prop :=
  ∃ more s, ∀ r, Stops r → Builds .statement (front ++ (more ++ r)) s r

/-- The tokens can be finished to statements. If there are none, nothing needs to be added. -/
def CompletesAll (front : List Token) : Prop :=
  ∃ more body, (front = [] → more = []) ∧
    ∀ r, Stops r → Builds .statements (front ++ (more ++ r)) body r

/-- The mistake `err` in a statement is found where the tokens before it can be finished. -/
def StuckStatement (ts : List Token) (err : ParseError) : Prop :=
  ∃ front, Stopped err ts front ∧ Completes front

/-- The mistake `err` in statements is found where the tokens before it can be finished. -/
def StuckStatements (ts : List Token) (err : ParseError) : Prop :=
  ∃ front, Stopped err ts front ∧ CompletesAll front

section
variable {ts front r : List Token} {err : ParseError}

/-- The tokens up to a mistake are a front of all tokens. -/
theorem Stopped.exists_rest (h : Stopped err ts front) : ∃ rest, ts = front ++ rest := by
  obtain rfl | ⟨-, before, o, t, rfl, -, rfl⟩ := h
  · exact ⟨err.rest, rfl⟩
  · exact ⟨t :: err.rest, rfl⟩

/-- Where a statement stops there is no `else`. -/
theorem Stops.next_ne_else (h : Stops r) : Next (· ≠ word .elseWord) r :=
  h.imp fun tok htok heq => by rw [heq] at htok; cases htok

/-- Tokens that are a way to write a statement together with the tokens `more`. -/
theorem completes_of_written (more : List Tok) {toks : List Tok} {s : Stmt}
    (h : Written .statement toks s) (hnested : wellNested s = true)
    (htoks : front.map Token.tok ++ more = toks) : Completes front := by
  refine ⟨more.map fun tok => ⟨tok, 0⟩, s, fun r hr => ?_⟩
  rw [← List.append_assoc]
  exact h.readsBack hnested (by simpa [Function.comp_def] using htoks) fun _ => hr.next_ne_else

/-- A mistake at the first token of a statement. -/
theorem stuck_here {cause : SyntaxCause} : StuckStatement ts ⟨cause, ts⟩ :=
  ⟨[], .inl rfl, completes_of_written [.punct .semicolon] .empty rfl rfl⟩

/-- A mistake after the tokens `before`. -/
theorem stuck_behind {cause : SyntaxCause} (before : List Token) (hts : ts = before ++ r)
    (h : Completes before) : StuckStatement ts ⟨cause, r⟩ :=
  ⟨before, .inl hts, h⟩

/-- A mistake in an expression after the tokens `before`. -/
theorem stuck_in_expression (before : List Token) (hts : ts = before ++ r)
    (he : expression r = .error err)
    (hgo : ∀ {front toks e}, Derives .expression (front.map Token.tok ++ toks) e →
      Completes (before ++ front)) : StuckStatement ts err := by
  obtain ⟨front, more, e, hstopped, hderives⟩ := exists_of_expression_error he
  exact ⟨before ++ front, hts ▸ hstopped.append before, hgo hderives⟩

end

/-! ## words and names -/

section
variable {ts : List Token} {err : ParseError}

/-- Without a name the mistake is at the token that stands there. -/
theorem eq_of_name (h : name ts = .error err) : err = ⟨.expectedIdentifier, ts⟩ := by
  unfold name at h
  split at h
  · split at h
    · exact (Except.error.inj h).symm
    · cases h
  · exact (Except.error.inj h).symm

/-- So it is where a loop has neither of the words for its kind. -/
theorem eq_of_loopKind (h : loopKind ts = .error err) : err = ⟨.expectedOfOrIn, ts⟩ := by
  unfold loopKind at h
  split at h
  · split at h
    · cases h
    split at h
    · cases h
    · exact (Except.error.inj h).symm
  · exact (Except.error.inj h).symm

/-- Each operator that assigns has its mark. -/
theorem assignOp?_eq_some_iff {tok : Tok} {op : AssignOp} :
    assignOp? tok = some op ↔ tok = .punct (assignMark op) := by
  constructor
  · intro h
    unfold assignOp? at h
    split at h
    all_goals cases h
    all_goals rfl
  · rintro rfl
    exact assignOp?_assignMark op

/-- A word that declares variables is the keyword for it. -/
theorem exists_of_declares {x : String} (h : (Keyword.ofName? x).any Keyword.declares = true) :
    ∃ k : Keyword, k.declares = true ∧ x = k.spelling := by
  obtain ⟨k, hk, hdeclares⟩ := (Option.any_eq_true ..).1 h
  exact ⟨k, hdeclares, eq_spelling_of_ofName? hk⟩

/-- A declarator and a name are the variable of a loop. -/
theorem Declarator.loopVariable {front : List Token} (h : Declarator front) (x : String) :
    LoopVariable x (front.map Token.tok ++ [.ident x]) := by
  obtain rfl | ⟨name, o, rfl, hname⟩ := h
  · exact .bare
  · obtain ⟨k, hk, rfl⟩ := exists_of_declares hname
    exact .declared hk

end

/-! ## statements without statements inside -/

section
variable {ts : List Token} {err : ParseError}

/-- An expression that stands as a statement is stuck where the expression is. -/
theorem stuck_of_expressionStatement (hopens : Next (· ≠ .punct .lbrace) ts)
    (he : expressionStatement ts = .error err) : StuckStatement ts err := by
  obtain hread | ⟨⟨e, r, h⟩, hread, he⟩ := Except.bind_eq_error_iff.1 he
  · obtain ⟨front, more, e, hstopped, hderives⟩ := exists_of_expression_error hread
    cases front with
    | nil => exact ⟨[], hstopped, completes_of_written [.punct .semicolon] .empty rfl rfl⟩
    | cons t front =>
      obtain ⟨rest, rfl⟩ := hstopped.exists_rest
      have hbrace : (t.tok :: (front.map Token.tok ++ more)).head? ≠ some (.punct .lbrace) :=
        fun hhead => next_cons.1 hopens (Option.some.inj hhead)
      exact ⟨t :: front, hstopped, completes_of_written (more ++ [.punct .semicolon])
        (.expr hderives hbrace) rfl (List.append_assoc ..).symm⟩
  · cases he

/-- A declaration is stuck at its name or in its value. -/
theorem stuck_of_declaration {x : String} (o : Nat)
    (hx : (Keyword.ofName? x).any Keyword.declares = true) (he : declaration ts = .error err) :
    StuckStatement (⟨.ident x, o⟩ :: ts) err := by
  obtain ⟨k, hk, rfl⟩ := exists_of_declares hx
  obtain hname | ⟨⟨y, r, h⟩, hname, he⟩ := Except.bind_eq_error_iff.1 he
  · obtain rfl := eq_of_name hname
    have hwritten : Written .statement [word k, .ident "x", .punct .semicolon] _ := .declare hk rfl
    exact stuck_behind [⟨word k, o⟩] rfl (completes_of_written _ hwritten rfl rfl)
  obtain ⟨o₁, hts, hy⟩ := exists_of_name hname
  dsimp only at he hts
  subst hts
  split at he
  · cases he
  next left hassign =>
  obtain ⟨r₁, h₁⟩ := left
  obtain ⟨o₂, rfl⟩ := exists_of_eat? hassign
  obtain hread | ⟨⟨e, r₂, h₂⟩, hread, he⟩ := Except.bind_eq_error_iff.1 he
  · refine stuck_in_expression [⟨word k, o⟩, ⟨.ident y, o₁⟩, ⟨.punct .assign, o₂⟩] rfl hread
      fun {front more e} hderives => ?_
    exact completes_of_written (more ++ [.punct .semicolon]) (.declareAs hk hy hderives) rfl
      (by simp)
  · cases he

/-- An assignment is stuck in its value. -/
theorem stuck_of_assignment {t : Token} {x : String} {o : Nat} {op : AssignOp}
    (hop : assignOp? t.tok = some op) (he : assignment op (⟨.ident x, o⟩ :: t :: ts) = .error err) :
    StuckStatement (⟨.ident x, o⟩ :: t :: ts) err := by
  obtain hname | ⟨⟨y, r, h⟩, hname, he⟩ := Except.bind_eq_error_iff.1 he
  · obtain rfl := eq_of_name hname
    exact stuck_here
  obtain ⟨o₁, hts, hy⟩ := exists_of_name hname
  obtain ⟨⟨rfl, rfl⟩, rfl⟩ : (x = y ∧ o = o₁) ∧ t :: ts = r := by simpa using hts
  obtain hread | ⟨⟨e, r₂, h₂⟩, hread, he⟩ := Except.bind_eq_error_iff.1 he
  · refine stuck_in_expression [⟨.ident x, o⟩, t] rfl hread fun {front more e} hderives => ?_
    have hwritten : Written .statement _ (.assign x op e) := .assign hy hderives
    exact completes_of_written (more ++ [.punct .semicolon]) hwritten rfl
      (by simp [assignOp?_eq_some_iff.1 hop])
  · cases he

/-- A mistake in the parentheses after `if`. -/
theorem stuck_of_condition (o : Nat) (he : condition ts = .error err) :
    StuckStatement (⟨word .ifWord, o⟩ :: ts) err := by
  obtain ⟨any, e₀, hany⟩ := derives_something
  obtain hopen | ⟨⟨r, h⟩, hopen, he⟩ := Except.bind_eq_error_iff.1 he
  · obtain rfl := eq_of_expect hopen
    exact stuck_behind [⟨word .ifWord, o⟩] rfl
      (completes_of_written _ (.branch hany .empty) rfl rfl)
  obtain ⟨o₁, rfl⟩ := exists_of_expect hopen
  obtain hread | ⟨⟨e, r₁, h₁⟩, hread, he⟩ := Except.bind_eq_error_iff.1 he
  · refine stuck_in_expression [⟨word .ifWord, o⟩, ⟨.punct .lparen, o₁⟩] rfl hread
      fun {front more e} hderives => ?_
    exact completes_of_written (more ++ [.punct .rparen, .punct .semicolon])
      (.branch hderives .empty) rfl (by simp)
  obtain ⟨inner, rfl, hderives, -⟩ := reads_expression_iff.1 (reads_of_expression_eq_ok hread)
  obtain hclose | ⟨⟨r₂, h₂⟩, hclose, he⟩ := Except.bind_eq_error_iff.1 he
  · obtain rfl := eq_of_expect hclose
    exact stuck_behind (⟨word .ifWord, o⟩ :: ⟨.punct .lparen, o₁⟩ :: inner) rfl
      (completes_of_written [.punct .rparen, .punct .semicolon] (.branch hderives .empty) rfl
        (by simp))
  · cases he

/-- A mistake in the parentheses after `for`. -/
theorem stuck_of_loopHead (o : Nat) (he : loopHead ts = .error err) :
    StuckStatement (⟨word .forWord, o⟩ :: ts) err := by
  have hwritten : ∀ {head toks : List Tok} {e : Expr} {x : String} (kind : LoopKind),
      LoopVariable x head → Keyword.ofName? x = none → Derives .expression toks e →
      Written .statement (word .forWord :: .punct .lparen :: (head ++ .ident kind.word ::
        (toks ++ [.punct .rparen, .punct .semicolon]))) (kind.loop x e .empty) :=
    fun kind hhead hx hderives => .loop hhead hx hderives .empty
  have hx : Keyword.ofName? "x" = none := rfl
  obtain ⟨any, e₀, hany⟩ := derives_something
  obtain hopen | ⟨⟨r, h⟩, hopen, he⟩ := Except.bind_eq_error_iff.1 he
  · obtain rfl := eq_of_expect hopen
    exact stuck_behind [⟨word .forWord, o⟩] rfl
      (completes_of_written _ (hwritten .of .bare hx hany) rfl rfl)
  obtain ⟨o₁, rfl⟩ := exists_of_expect hopen
  obtain ⟨front, hfront, hdeclarator⟩ := exists_skipDeclarator r
  dsimp only at he
  generalize skipDeclarator r = left at hfront he
  obtain ⟨r₁, h₁⟩ := left
  dsimp only at hfront
  subst hfront
  obtain hname | ⟨⟨y, r₂, h₂⟩, hname, he⟩ := Except.bind_eq_error_iff.1 he
  · obtain rfl := eq_of_name hname
    exact stuck_behind (⟨word .forWord, o⟩ :: ⟨.punct .lparen, o₁⟩ :: front) rfl
      (completes_of_written (.ident "x" :: .ident LoopKind.of.word ::
          (any ++ [.punct .rparen, .punct .semicolon]))
        (hwritten .of (hdeclarator.loopVariable "x") hx hany) rfl (by simp))
  obtain ⟨o₂, hts, hy⟩ := exists_of_name hname
  dsimp only at he hts
  subst hts
  have hvariable := hdeclarator.loopVariable y
  obtain hkind | ⟨⟨kind, r₃, h₃⟩, hkind, he⟩ := Except.bind_eq_error_iff.1 he
  · obtain rfl := eq_of_loopKind hkind
    exact stuck_behind (⟨word .forWord, o⟩ :: ⟨.punct .lparen, o₁⟩ ::
        (front ++ [⟨.ident y, o₂⟩])) (by simp)
      (completes_of_written (.ident LoopKind.of.word ::
          (any ++ [.punct .rparen, .punct .semicolon]))
        (hwritten .of hvariable hy hany) rfl (by simp))
  obtain ⟨o₃, hts⟩ := exists_of_loopKind hkind
  dsimp only at he hts
  subst hts
  have hnested : ∀ e, wellNested (kind.loop y e .empty) = true := fun e => by
    rw [wellNested_loop]
    rfl
  obtain hread | ⟨⟨e, r₄, h₄⟩, hread, he⟩ := Except.bind_eq_error_iff.1 he
  · refine stuck_in_expression (⟨word .forWord, o⟩ :: ⟨.punct .lparen, o₁⟩ ::
        (front ++ [⟨.ident y, o₂⟩, ⟨.ident kind.word, o₃⟩])) (by simp) hread
      fun {inner more e} hderives => ?_
    exact completes_of_written (more ++ [.punct .rparen, .punct .semicolon])
      (hwritten kind hvariable hy hderives) (hnested e) (by simp)
  obtain ⟨inner, rfl, hderives, -⟩ := reads_expression_iff.1 (reads_of_expression_eq_ok hread)
  obtain hclose | ⟨⟨r₅, h₅⟩, hclose, he⟩ := Except.bind_eq_error_iff.1 he
  · obtain rfl := eq_of_expect hclose
    exact stuck_behind (⟨word .forWord, o⟩ :: ⟨.punct .lparen, o₁⟩ ::
        (front ++ ⟨.ident y, o₂⟩ :: ⟨.ident kind.word, o₃⟩ :: inner)) (by simp)
      (completes_of_written [.punct .rparen, .punct .semicolon]
        (hwritten kind hvariable hy hderives) (hnested e) (by simp))
  · cases he

end

/-! ## statements one after the other -/

section
variable {ts ts' r : List Token} {s : Stmt} {err : ParseError}

/-- A mistake in a statement inside another one, after the tokens `before`. -/
theorem StuckStatement.within (h : StuckStatement ts' err) (before : List Token)
    (hts : ts = before ++ ts') (hgo : ∀ {front}, Completes front → Completes (before ++ front)) :
    StuckStatement ts err := by
  obtain ⟨front, hstopped, hcompletes⟩ := h
  exact ⟨before ++ front, hts ▸ hstopped.append before, hgo hcompletes⟩

/-- A mistake in the first of the statements. -/
theorem StuckStatement.first (h : StuckStatement ts err) : StuckStatements ts err := by
  obtain ⟨front, hstopped, more, s, hbuilds⟩ := h
  refine ⟨front, hstopped, ?_⟩
  by_cases hfront : front = []
  · subst hfront
    exact ⟨[], [], fun _ => rfl, fun _ _ => .done⟩
  · exact ⟨more, [s], fun hnil => absurd hnil hfront, fun r hr => .next (hbuilds r hr) .done⟩

/-- A mistake after the first of the statements. -/
theorem StuckStatements.next (hs : Builds .statement ts s r) (h : StuckStatements r err) :
    StuckStatements ts err := by
  obtain ⟨front, rfl, hfront⟩ := hs.exists_front
  obtain ⟨back, hstopped, more, body, hnil, hbuilds⟩ := h
  refine ⟨front ++ back, hstopped.append front, more, s :: body,
    fun h => hnil (List.append_eq_nil_iff.1 h).2, fun r' hr' => ?_⟩
  -- the tokens after the first statement begin as before, or they end it
  have halike : Alike r (back ++ (more ++ r')) := by
    obtain ⟨rest, rfl⟩ := hstopped.exists_rest
    cases back with
    | nil => exact .inl (by simpa [hnil rfl] using hr')
    | cons t back => exact alike_cons t _ _
  rw [List.append_assoc]
  exact .next (hfront _ halike) (hbuilds r' hr')

end

/-- The parser finds mistakes in a statement where the tokens before them can be finished. -/
def StuckAt (ts : List Token) : Prop :=
  ∀ {err : ParseError}, statement ts = .error err → StuckStatement ts err

/-- A block is stuck in one of its statements, or where its brace is missing. -/
theorem stuck_of_block {ts : List Token} {err : ParseError}
    (ih : ∀ ts', ts'.length ≤ ts.length → StuckAt ts') (he : block ts = .error err) :
    StuckStatements ts err := by
  rw [block] at he
  split at he
  · cases he
  split at he
  · obtain rfl := Except.error.inj he
    exact ⟨[], .inl rfl, [], [], fun _ => rfl, fun _ _ => .done⟩
  obtain hs | ⟨⟨s, r, h⟩, hs, he⟩ := Except.bind_eq_error_iff.1 he
  · exact (ih ts (Nat.le_refl _) hs).first
  obtain hrest | ⟨⟨rest, r₁, h₁⟩, hrest, he⟩ := Except.bind_eq_error_iff.1 he
  · have ih' : ∀ ts', ts'.length ≤ r.length → StuckAt ts' := fun ts' hle => ih ts' (by omega)
    exact .next (builds_of_statement ts hs) (stuck_of_block ih' hrest)
  · cases he
termination_by ts.length

section
variable {ts : List Token} {err : ParseError}

/-- A branch is stuck in its condition or in one of its statements. -/
theorem stuck_of_branch (o : Nat) (ih : ∀ ts', ts'.length < ts.length → StuckAt ts')
    (he : branch ts = .error err) : StuckStatement (⟨word .ifWord, o⟩ :: ts) err := by
  have hword := ofName?_spelling .ifWord
  rw [branch] at he
  obtain hcondition | ⟨⟨e, r, h⟩, hcondition, he⟩ := Except.bind_eq_error_iff.1 he
  · exact stuck_of_condition o hcondition
  obtain ⟨o₁, o₂, ts, rfl, hreads⟩ := exists_of_condition hcondition
  obtain ⟨inner, rfl, -, hinner⟩ := hreads.exists_front
  obtain hyes | ⟨⟨yes, r₁, h₁⟩, hyes, he⟩ := Except.bind_eq_error_iff.1 he
  · refine (ih r h hyes).within (⟨word .ifWord, o⟩ :: ⟨.punct .lparen, o₁⟩ ::
      (inner ++ [⟨.punct .rparen, o₂⟩])) (by simp) fun {front} hgo => ?_
    obtain ⟨more, yes, hbuilds⟩ := hgo
    refine ⟨more, .branch e yes none, fun r' hr' => ?_⟩
    have helse := eatKeyword?_eq_none_iff_word.2 hr'.next_ne_else
    have hread := hinner (⟨.punct .rparen, o₂⟩ :: (front ++ (more ++ r'))) (alike_cons _ _ _)
    simpa using Builds.branch (o := o) hword hread (hbuilds r' hr') helse
  have hbuilds := builds_of_statement _ hyes
  dsimp only at he
  split at he
  · cases he
  next r₂ h₂ helse =>
  obtain ⟨other, o₃, hts, hother⟩ := exists_of_eatKeyword? helse
  dsimp only at hts
  subst hts
  obtain hno | ⟨⟨no, r₃, h₃⟩, hno, he⟩ := Except.bind_eq_error_iff.1 he
  · obtain ⟨mid, rfl, hmid⟩ := hbuilds.exists_front
    refine (ih r₂ (by grind) hno).within (⟨word .ifWord, o⟩ :: ⟨.punct .lparen, o₁⟩ ::
      (inner ++ ⟨.punct .rparen, o₂⟩ :: (mid ++ [⟨.ident other, o₃⟩]))) (by simp)
      fun {front} hgo => ?_
    obtain ⟨more, no, hbuilds⟩ := hgo
    refine ⟨more, .branch e yes (some no), fun r' hr' => ?_⟩
    have hyes' := hmid (⟨.ident other, o₃⟩ :: (front ++ (more ++ r'))) (alike_cons _ _ _)
    have hread := hinner (⟨.punct .rparen, o₂⟩ ::
      (mid ++ ⟨.ident other, o₃⟩ :: (front ++ (more ++ r')))) (alike_cons _ _ _)
    simpa using Builds.branchElse (o := o) hword hread hyes' hother (hbuilds r' hr')
  · cases he

/-- A loop is stuck in its body if its head is read. -/
theorem stuck_of_loop (o : Nat) {x : String} {kind : LoopKind} {e : Expr} {r : List Token}
    {h : r.length < ts.length} (hhead : loopHead ts = .ok ((x, kind, e), ⟨r, h⟩))
    (hbody : StuckStatement r err) : StuckStatement (⟨word .forWord, o⟩ :: ts) err := by
  have hword := ofName?_spelling .forWord
  obtain ⟨o₁, front, o₂, o₃, o₄, ts', rfl, hfront, hx, hreads⟩ := exists_of_loopHead hhead
  obtain ⟨inner, rfl, -, hinner⟩ := hreads.exists_front
  refine hbody.within (⟨word .forWord, o⟩ :: ⟨.punct .lparen, o₁⟩ ::
    (front ++ ⟨.ident x, o₂⟩ :: ⟨.ident kind.word, o₃⟩ :: (inner ++ [⟨.punct .rparen, o₄⟩])))
    (by simp) fun {back} hgo => ?_
  obtain ⟨more, body, hbuilds⟩ := hgo
  refine ⟨more, kind.loop x e body, fun r' hr' => ?_⟩
  have hread := hinner (⟨.punct .rparen, o₄⟩ :: (back ++ (more ++ r'))) (alike_cons _ _ _)
  have hloop : Builds .statement (⟨word .forWord, o⟩ :: ⟨.punct .lparen, o₁⟩ ::
      (front ++ ⟨.ident x, o₂⟩ :: ⟨.ident kind.word, o₃⟩ ::
        (inner ++ ⟨.punct .rparen, o₄⟩ :: (back ++ (more ++ r'))))) (kind.loop x e body) r' :=
    .loop hword hfront hx hread (hbuilds r' hr')
  simpa using hloop

end

/-- Every statement that is rejected is stuck where the mistake is reported. -/
theorem stuck_of_statement (ts : List Token) : StuckAt ts := by
  intro err he
  have ih : ∀ ts', ts'.length < ts.length → StuckAt ts' := fun ts' hlt => stuck_of_statement ts'
  unfold statement at he
  split at he
  · exact stuck_of_expressionStatement (next_nil _) he
  · cases he
  · next o ts =>
    obtain hbody | ⟨⟨body, r, h⟩, hbody, he⟩ := Except.bind_eq_error_iff.1 he
    · obtain ⟨front, hstopped, more, body, -, hbuilds⟩ :=
        stuck_of_block (fun ts' hle => ih ts' (Nat.lt_succ_of_le hle)) hbody
      refine ⟨⟨.punct .lbrace, o⟩ :: front, hstopped.append [⟨.punct .lbrace, o⟩],
        more ++ [⟨.punct .rbrace, 0⟩], .block body, fun r hr => ?_⟩
      have hblock := hbuilds (⟨.punct .rbrace, 0⟩ :: r) (next_cons.2 rfl)
      simpa using Builds.block (r := r) hblock
    · cases he
  · cases he
  · obtain rfl := Except.error.inj he
    exact stuck_here
  · next name o ts =>
    split at he
    · next hword =>
      obtain rfl := eq_spelling_of_ofName? hword
      obtain hs | ⟨⟨s, r, h⟩, hs, he⟩ := Except.bind_eq_error_iff.1 he
      · exact stuck_of_branch o (fun ts' hlt => ih ts' (Nat.lt_succ_of_lt hlt)) hs
      · cases he
    · next hword =>
      obtain rfl := eq_spelling_of_ofName? hword
      obtain hhead | ⟨⟨⟨x, kind, e⟩, r, h⟩, hhead, he⟩ := Except.bind_eq_error_iff.1 he
      · exact stuck_of_loopHead o hhead
      obtain hbody | ⟨⟨body, r₁, h₁⟩, hbody, he⟩ := Except.bind_eq_error_iff.1 he
      · exact stuck_of_loop o hhead (ih r (Nat.lt_succ_of_lt h) hbody)
      · cases he
    · obtain rfl := Except.error.inj he
      exact stuck_here
    · next hword =>
      obtain hs | ⟨⟨s, r, h⟩, hs, he⟩ := Except.bind_eq_error_iff.1 he
      · exact stuck_of_declaration o (by rw [hword]; rfl) hs
      · cases he
    · next hword =>
      obtain hs | ⟨⟨s, r, h⟩, hs, he⟩ := Except.bind_eq_error_iff.1 he
      · exact stuck_of_declaration o (by rw [hword]; rfl) hs
      · cases he
    · next hword =>
      obtain hs | ⟨⟨s, r, h⟩, hs, he⟩ := Except.bind_eq_error_iff.1 he
      · exact stuck_of_declaration o (by rw [hword]; rfl) hs
      · cases he
    · next hif hfor helse hlet hconst hvar =>
      split at he
      · next op hop =>
        cases ts with
        | nil => cases hop
        | cons t ts => exact stuck_of_assignment hop he
      · exact stuck_of_expressionStatement (next_cons.2 (by simp)) he
  · next hnil hemit hopen hsemicolon hclose hident =>
    refine stuck_of_expressionStatement (fun t ht hbrace => ?_) he
    obtain ⟨ts, rfl⟩ := List.head?_eq_some_iff.1 ht
    obtain ⟨tok, o⟩ := t
    obtain rfl : tok = .punct .lbrace := hbrace
    exact hopen o ts rfl
termination_by ts.length

/-- So are statements one after the other. -/
theorem stuck_of_statements {ts : List Token} {err : ParseError}
    (he : statements ts = .error err) : StuckStatements ts err := by
  rw [statements] at he
  split at he
  · cases he
  obtain hs | ⟨⟨s, r, h⟩, hs, he⟩ := Except.bind_eq_error_iff.1 he
  · exact (stuck_of_statement ts hs).first
  obtain hrest | ⟨rest, hrest, he⟩ := Except.bind_eq_error_iff.1 he
  · exact .next (builds_of_statement ts hs) (stuck_of_statements hrest)
  · cases he
termination_by ts.length

/-! ## names after points -/

/-- After each point stands a name. -/
def PointsNamed (toks : List Tok) : Prop :=
  ∀ before after, toks = before ++ .punct .dot :: after → ∃ name rest, after = .ident name :: rest

section
variable {tok : Tok} {toks toks' : List Tok}

/-- No tokens have no point in them. -/
theorem pointsNamed_nil : PointsNamed [] := by
  intro before after h
  cases before <;> cases h

/-- A token that is no point may come in front. -/
theorem PointsNamed.cons (h : PointsNamed toks) (htok : tok ≠ .punct .dot) :
    PointsNamed (tok :: toks) := by
  intro before after heq
  cases before with
  | nil => exact absurd (List.cons.inj heq).1 htok
  | cons t before => exact h before after (List.cons.inj heq).2

/-- A point with a name after it may. -/
theorem PointsNamed.point (h : PointsNamed toks) (name : String) :
    PointsNamed (.punct .dot :: .ident name :: toks) := by
  intro before after heq
  cases before with
  | nil => exact ⟨name, toks, (List.cons.inj heq).2.symm⟩
  | cons t before => exact h.cons (by simp) before after (List.cons.inj heq).2

/-- Two runs of such tokens may follow each other. -/
theorem PointsNamed.append (h : PointsNamed toks) (h' : PointsNamed toks') :
    PointsNamed (toks ++ toks') := by
  intro before after heq
  obtain ⟨mid, rfl, rfl⟩ | ⟨mid, rfl, hmid⟩ := List.append_eq_append_iff.1 heq
  · exact h' mid after rfl
  · cases mid with
    | nil => exact h' [] after hmid.symm
    | cons t mid =>
      obtain ⟨rfl, rfl⟩ := List.cons.inj hmid
      obtain ⟨name, rest, rfl⟩ := h before mid rfl
      exact ⟨name, rest ++ toks', rfl⟩

/-- Brackets may stand around such tokens. -/
theorem PointsNamed.bracketed {p q : Punct} (h : PointsNamed toks) (hp : p ≠ .dot)
    (hq : q ≠ .dot) : PointsNamed (.punct p :: (toks ++ [.punct q])) :=
  (h.append (pointsNamed_nil.cons (by simpa using hq))).cons (by simpa using hp)

end

/-- After each point in an expression stands a name. -/
theorem Derives.pointsNamed {c : Category} {toks : List Tok} {v : c.Value}
    (h : Derives c toks v) : PointsNamed toks := by
  have hkey : ∀ {tok key}, EntryKey tok key → tok ≠ .punct .dot := by
    rintro tok key (name | s | x) <;> simp
  induction h with
  | conditional hcondition hyes hno ih ih₁ ih₂ =>
    exact ih.append ((ih₁.append (ih₂.cons (by simp))).cons (by simp))
  | @operator front back left right level p op hop hleft hright ih ih₁ =>
    have hdot : p ≠ .dot := by
      rintro rfl
      have heq := binaryOp?_eq_some_iff.2 ⟨.dot, level, rfl, rfl, hop⟩
      cases heq
    exact ih.append (ih₁.cons (by simpa using hdot))
  | @sign toks e p op hop hoperand ih =>
    have hdot : p ≠ .dot := by
      rintro rfl
      have heq := unaryOp?_eq_some_iff.2 ⟨.dot, rfl, hop⟩
      cases heq
    exact ih.cons (by simpa using hdot)
  | member h ih => exact ih.append (pointsNamed_nil.point _)
  | index h hkey ih ih₁ => exact ih.append (ih₁.bracketed (by simp) (by simp))
  | call h hargs ih ih₁ => exact ih.append (ih₁.bracketed (by simp) (by simp))
  | number | string | constant | name => exact pointsNamed_nil.cons (by simp)
  | parens | array | object => exact PointsNamed.bracketed ‹_› (by simp) (by simp)
  | noItems | noEntries => exact pointsNamed_nil
  | item h hrest ih ih₁ | entry h hrest ih ih₁ => exact ih.append (ih₁.cons (by simp))
  | full hname hvalue ih => exact (ih.cons (by simp)).cons (hkey hname)
  | short hname => exact pointsNamed_nil.cons (hkey hname)
  | _ => assumption

section
variable {ts r : List Token}

/-- In an expression that is read a name stands after each point. -/
theorem Reads.pointsNamed {e : Expr} (h : Reads .expression ts e r)
    (hr : PointsNamed (r.map Token.tok)) : PointsNamed (ts.map Token.tok) := by
  obtain ⟨front, rfl, hderives, -⟩ := reads_expression_iff.1 h
  rw [List.map_append]
  exact hderives.pointsNamed.append hr

/-- A semicolon is no point. -/
theorem pointsNamed_of_skipSemicolon (h : (skipSemicolon ts).1 = r)
    (hr : PointsNamed (r.map Token.tok)) : PointsNamed (ts.map Token.tok) := by
  by_cases hnext : Next (· ≠ .punct .semicolon) ts
  · rwa [← skipSemicolon_of_next hnext, h]
  · cases ts with
    | nil => exact pointsNamed_nil
    | cons t ts =>
      obtain ⟨tok, o⟩ := t
      obtain rfl : tok = .punct .semicolon := by simpa using hnext
      obtain rfl : ts = r := h
      exact hr.cons (by simp)

/-- After each point in what is read stands a name. -/
theorem Builds.pointsNamed {c : Clause} {v : c.Value} (h : Builds c ts v r)
    (hr : PointsNamed (r.map Token.tok)) : PointsNamed (ts.map Token.tok) := by
  induction h with
  | emit | empty => exact hr.cons (by simp)
  | block hbody ih => exact (ih (hr.cons (by simp))).cons (by simp)
  | branch hword hread hyes helse ih =>
    exact ((hread.pointsNamed ((ih hr).cons (by simp))).cons (by simp)).cons (by simp)
  | branchElse hword hread hyes helse hno ih ih₁ =>
    have hrest := ih ((ih₁ hr).cons (by simp))
    exact ((hread.pointsNamed (hrest.cons (by simp))).cons (by simp)).cons (by simp)
  | @loop front ts r₁ r word x kind e body o o₁ o₂ o₃ o₄ hword hfront hx hread hbody ih =>
    have hrest := hread.pointsNamed ((ih hr).cons (by simp))
    have hhead : PointsNamed (front.map Token.tok) := by
      obtain rfl | ⟨name, o, rfl, -⟩ := hfront
      · exact pointsNamed_nil
      · exact pointsNamed_nil.cons (by simp)
    have hinner : PointsNamed (.ident x :: .ident kind.word :: _) :=
      (hrest.cons (by simp)).cons (by simp)
    have hloop : PointsNamed (.ident word :: .punct .lparen :: _) :=
      ((hhead.append hinner).cons (by simp)).cons (by simp)
    simpa using hloop
  | declare hword hx hnext hend =>
    exact ((pointsNamed_of_skipSemicolon hend hr).cons (by simp)).cons (by simp)
  | declareAs hword hx hread hend =>
    have hrest := hread.pointsNamed (pointsNamed_of_skipSemicolon hend hr)
    exact ((hrest.cons (by simp)).cons (by simp)).cons (by simp)
  | assign hx hop hread hend =>
    have hrest := hread.pointsNamed (pointsNamed_of_skipSemicolon hend hr)
    refine (hrest.cons fun hdot => ?_).cons (by simp)
    rw [hdot] at hop
    cases hop
  | expr hopens hread hend => exact hread.pointsNamed (pointsNamed_of_skipSemicolon hend hr)
  | done => exact hr
  | next hs hbody ih ih₁ => exact ih (ih₁ hr)

end

/-! ## what is shown of a mistake -/

/-- The parser accepts the tokens with some after them, or with none. -/
def CanGoOn {α : Type} (parse : List Token → Except ParseError α) (front : List Token) : Prop :=
  ∃ more v, parse (front ++ more) = .ok v

/-- The last token before the place of the mistake stands after a point and is no name. -/
def BehindPoint (ts : List Token) (err : ParseError) : Prop :=
  ∃ front o t, ts = front ++ ⟨.punct .dot, o⟩ :: t :: err.rest ∧ ∀ name, t.tok ≠ .ident name

/-- What the place of the mistake `err` says: the tokens before it can go on, except behind a
token after a point that is no name. Only what stands before that token can go on. -/
def FoundAt {α : Type} (parse : List Token → Except ParseError α) (ts : List Token)
    (err : ParseError) : Prop :=
  ((∃ front, ts = front ++ err.rest ∧ CanGoOn parse front) ↔ ¬ BehindPoint ts err) ∧
    (BehindPoint ts err → err.cause = .expectedProperty ∧
      ∃ front t, ts = front ++ t :: err.rest ∧ CanGoOn parse front)

section
variable {α : Type} {parse : List Token → Except ParseError α} {ts front : List Token}
  {err : ParseError}

/-- Nothing goes on from a point with something else than a name after it. -/
theorem not_behindPoint (hgo : CanGoOn parse front)
    (hnamed : ∀ {ts v}, parse ts = .ok v → PointsNamed (ts.map Token.tok)) :
    ¬ BehindPoint (front ++ err.rest) err := by
  rintro ⟨before, o, t, hts, ht⟩
  obtain rfl : front = before ++ [⟨.punct .dot, o⟩, t] :=
    List.append_cancel_right (hts.trans (by simp))
  obtain ⟨more, v, hok⟩ := hgo
  obtain ⟨name, rest, hname⟩ :=
    hnamed hok (before.map Token.tok) (t.tok :: more.map Token.tok) (by simp)
  exact ht name (List.cons.inj hname).1

/-- What can go on up to where the parser stopped is the place of the mistake. -/
theorem Stopped.foundAt (h : Stopped err ts front) (hgo : CanGoOn parse front)
    (hnamed : ∀ {ts v}, parse ts = .ok v → PointsNamed (ts.map Token.tok)) :
    FoundAt parse ts err := by
  obtain rfl | ⟨hcause, before, o, t, rfl, ht, rfl⟩ := h
  · have hnot : ¬ BehindPoint (front ++ err.rest) err := not_behindPoint hgo hnamed
    exact ⟨⟨fun _ => hnot, fun _ => ⟨front, rfl, hgo⟩⟩, fun hbehind => absurd hbehind hnot⟩
  · refine ⟨⟨fun hexists => ?_, fun hnot => ?_⟩, fun _ => ⟨hcause, _, t, rfl, hgo⟩⟩
    · obtain ⟨front, hts, hfront⟩ := hexists
      rw [hts]
      exact not_behindPoint hfront hnamed
    · exact absurd ⟨before, o, t, List.append_assoc .., ht⟩ hnot

end

section
variable {ts : List Token} {err : ParseError}

/-- A name stands after each point of statements that are read. -/
theorem pointsNamed_of_statements {body : List Stmt} (h : statements ts = .ok body) :
    PointsNamed (ts.map Token.tok) :=
  (statements_eq_ok_iff.1 h).pointsNamed pointsNamed_nil

/-- A name stands after each point of an expression that is read. -/
theorem pointsNamed_of_expressionOnly {e : Expr} (h : expressionOnly ts = .ok e) :
    PointsNamed (ts.map Token.tok) :=
  (expressionOnly_eq_ok_iff.1 h).pointsNamed pointsNamed_nil

/-- Every mistake in statements is found in this sense. -/
theorem foundAt_of_statements (he : statements ts = .error err) : FoundAt statements ts err := by
  obtain ⟨front, hstopped, more, body, -, hbuilds⟩ := stuck_of_statements he
  refine hstopped.foundAt ⟨more, body, ?_⟩ pointsNamed_of_statements
  have hread := hbuilds [] (next_nil _)
  rw [List.append_nil] at hread
  exact statements_eq_ok_iff.2 hread

/-- So is every mistake in an expression. -/
theorem foundAt_of_expressionOnly (he : expressionOnly ts = .error err) :
    FoundAt expressionOnly ts err := by
  obtain hread | ⟨⟨e, r, h⟩, hread, he⟩ := Except.bind_eq_error_iff.1 he
  · obtain ⟨front, more, e, hstopped, hderives⟩ := exists_of_expression_error hread
    refine hstopped.foundAt ⟨more.map fun tok => ⟨tok, 0⟩, e, ?_⟩ pointsNamed_of_expressionOnly
    refine expressionOnly_eq_ok_iff.2 (reads_iff_derives.2 ?_)
    simpa [Function.comp_def] using hderives
  · -- an expression was read, so the tokens before the place are one
    obtain ⟨front, rfl, hderives, -⟩ := reads_expression_iff.1 (reads_of_expression_eq_ok hread)
    dsimp only at he
    split at he
    · cases he
    obtain rfl := Except.error.inj he
    have hgo : CanGoOn expressionOnly front :=
      ⟨[], e, expressionOnly_eq_ok_iff.2 (reads_iff_derives.2 (by simpa using hderives))⟩
    have hstopped : Stopped ⟨.afterExpression, r⟩ (front ++ r) front := .inl rfl
    exact hstopped.foundAt hgo pointsNamed_of_expressionOnly

end

/-- **Mistakes come after unfinished code.** In statements and in single expressions, the
tokens before the place of a mistake are the front of tokens that are accepted just if the
last of them is not one after a point that is no name. -/
theorem mistakes_after_unfinished (ts : List Token) (err : ParseError) :
    (statements ts = .error err → FoundAt statements ts err) ∧
      (expressionOnly ts = .error err → FoundAt expressionOnly ts err) :=
  ⟨foundAt_of_statements, foundAt_of_expressionOnly⟩

/-- In `else` no token is before the mistake, in `x y` the first one is, which is an
expression. -/
theorem mistakes_after_unfinished_words :
    FoundAt statements [⟨word .elseWord, 0⟩] ⟨.elseWithoutIf, [⟨word .elseWord, 0⟩]⟩ ∧
      FoundAt expressionOnly [⟨.ident "x", 0⟩, ⟨.ident "y", 2⟩]
        ⟨.afterExpression, [⟨.ident "y", 2⟩]⟩ :=
  ⟨(mistakes_after_unfinished _ _).1 (by cbv), (mistakes_after_unfinished _ _).2 (by cbv)⟩

/-- In `z.1` the number after the point is before the place of the mistake, and nothing that
begins with these tokens is accepted. -/
theorem place_after_number : ¬ ∀ ts err, statements ts = .error err →
    ∃ front, ts = front ++ err.rest ∧ CanGoOn statements front := by
  have herror : ∀ x, statements [⟨.ident "z", 0⟩, ⟨.punct .dot, 1⟩, ⟨.number x, 2⟩] =
      .error ⟨.expectedProperty, []⟩ := fun x => by cbv
  intro h
  obtain ⟨front, hfront, more, body, hok⟩ := h _ _ (herror (.ofInt 1))
  rw [List.append_nil] at hfront
  subst hfront
  obtain ⟨name, rest, hname⟩ := pointsNamed_of_statements hok [.ident "z"] _ rfl
  cases hname

end Stencil.Script.Parse
