import Stencil.Proofs.Script.Derivation

/-!
# Stencil.Proofs.Script.Unfinished

Where the parser of expressions stops. If it finds a mistake, the tokens that it had gone
over can be finished in some way, so the mistake lies with the token after them
(`stuck_of_readPhrase`). The parser then stands at that token, except where it is the one
after a point and no name of a property: there the parser stands one token further on
(`Stopped`).
-/

namespace Stencil.Script.Parse

/-! ## the place of a mistake -/

/-- The parser had gone over the tokens `front` of `ts` when it found the mistake `err`. It
stands at the token after them, or one further on if that is the token after a point. -/
def Stopped (err : ParseError) (ts front : List Token) : Prop :=
  ts = front ++ err.rest ∨
    err.cause = .expectedProperty ∧ ∃ before o t, front = before ++ [⟨.punct .dot, o⟩] ∧
      (∀ name, t.tok ≠ .ident name) ∧ ts = front ++ t :: err.rest

section
variable {err : ParseError} {ts front : List Token}

/-- More tokens may come in front. -/
theorem Stopped.append (h : Stopped err ts front) (before : List Token) :
    Stopped err (before ++ ts) (before ++ front) := by
  obtain rfl | ⟨hcause, before', o, t, rfl, ht, rfl⟩ := h
  · exact .inl (List.append_assoc ..).symm
  · exact .inr ⟨hcause, before ++ before', o, t, (List.append_assoc ..).symm, ht,
      (List.append_assoc ..).symm⟩

end

/-! ## tokens that can be finished -/

/-- An expression for any place. -/
theorem derives_something : ∃ toks e, Derives .expression toks e :=
  ⟨[.string ""], _, .plain (Derives.loosen (Nat.zero_le levels)
    (.unary (.operand (.primary (.string "")))))⟩

/-- What is known of the tokens `toks` at the front of `ts` that the parser has gone over
in a phrase before it stops: with more tokens they are derived as that phrase. -/
def Phrase.GoesOn : (p : Phrase) → (ts : List Token) → (toks : List Tok) → Prop
  | .expression, _, toks => ∃ more e, Derives .expression (toks ++ more) e
  | .binary min, _, toks => min ≤ levels → ∃ more e, Derives (.binary min) (toks ++ more) e
  | .binaryRest min left, ts, toks => ∀ {front : List Tok} {level : Nat}, min ≤ level →
    Derives (.binary level) front left → Next (Weaker (level + 1)) ts →
      ∃ more e, Derives (.binary min) (front ++ (toks ++ more)) e
  | .unary, _, toks => ∃ more e, Derives .unary (toks ++ more) e
  | .postfixed, _, toks => ∃ more e, Derives .postfixed (toks ++ more) e
  | .postfixRest e, _, toks => ∀ {front : List Tok}, Derives .postfixed front e →
    ∃ more e', Derives .postfixed (front ++ (toks ++ more)) e'
  | .items _, _, toks => ∃ more es, Derives .items (toks ++ more) es
  | .entries, _, toks => ∃ more es, Derives .entries (toks ++ more) es
  | .entry, _, toks => ∃ more named, Derives .entry (toks ++ more) named
  | .primary, _, toks => ∃ more e, Derives .primary (toks ++ more) e

/-- The mistake `err` in a phrase is found where the tokens before it can be finished. -/
def Stuck (p : Phrase) (ts : List Token) (err : ParseError) : Prop :=
  ∃ front, Stopped err ts front ∧ p.GoesOn ts (front.map Token.tok)

/-- What the parser calls while it reads a phrase finds mistakes in such places. -/
structure StuckInside (p : Phrase) (ts : List Token) : Prop where
  inside : ∀ (q : Phrase) {err : ParseError}, q.rank < p.rank →
    readPhrase q ts = .error err → Stuck q ts err
  later : ∀ (q : Phrase) {ts' : List Token} {err : ParseError}, ts'.length < ts.length →
    readPhrase q ts' = .error err → Stuck q ts' err

section
variable {p q : Phrase} {ts ts' : List Token} {err : ParseError}

/-- A mistake in a phrase inside another one, after the tokens `before`. -/
theorem Stuck.within (h : Stuck q ts' err) (before : List Token) (hts : ts = before ++ ts')
    (hgo : ∀ {toks}, q.GoesOn ts' toks → p.GoesOn ts (before.map Token.tok ++ toks)) :
    Stuck p ts err := by
  obtain ⟨front, hstopped, hgoes⟩ := h
  refine ⟨before ++ front, hts ▸ hstopped.append before, ?_⟩
  rw [List.map_append]
  exact hgo hgoes

/-- A mistake in the phrase itself, after the tokens `before`. -/
theorem stuck_after {cause : SyntaxCause} (before : List Token) (hts : ts = before ++ ts')
    (hgo : p.GoesOn ts (before.map Token.tok)) : Stuck p ts ⟨cause, ts'⟩ :=
  ⟨before, .inl hts, hgo⟩

/-- A mistake is the same without what was read. -/
theorem forget_error {ε α : Type} {P : List Token → Prop} {x : Except ε (α × Subtype P)} {e : ε}
    (h : x = .error e) : x.map forget = .error e := Except.map_eq_error_iff.2 h

/-- Where a mark is missing the mistake is at the token that stands there. -/
theorem eq_of_expect {mark : Punct} (h : expect mark ts = .error err) :
    err = ⟨.expected mark, ts⟩ := by
  unfold expect at h
  split at h
  · cases h
  · exact (Except.error.inj h).symm

/-- What was read of a phrase before the tokens `r`. -/
theorem exists_of_ok {v : p.Value} {r : List Token} (h : readPhrase p ts = .ok (v, r)) :
    ∃ front, ts = front ++ r ∧ p.Derived ts v r (front.map Token.tok) :=
  (reads_of_readPhrase p ts h).derived

end

section
variable {ts : List Token} {err : ParseError}

/-- An expression is stuck where one of its parts is. -/
theorem stuck_of_expression (ih : StuckInside .expression ts)
    (he : readPhrase .expression ts = .error err) : Stuck .expression ts err := by
  replace he := Except.map_eq_error_iff.1 he
  rw [expression] at he
  obtain ⟨any, e₀, hany⟩ := derives_something
  obtain hcondition | ⟨⟨condition, r₁, h₁⟩, hcondition, he⟩ := Except.bind_eq_error_iff.1 he
  · refine (ih.inside (.binary 0) (by simp [Phrase.rank]) (forget_error hcondition)).within []
      rfl fun hgo => ?_
    obtain ⟨more, e, hderives⟩ := hgo (Nat.zero_le _)
    exact ⟨more, e, .plain hderives⟩
  obtain ⟨front, rfl, hfront⟩ := exists_of_ok (p := .binary 0) (forget_ok hcondition)
  replace hfront := (hfront (Nat.zero_le _)).1
  dsimp only at he
  split at he
  · cases he
  next r₂ h₂ hquestion =>
  obtain ⟨o₁, rfl⟩ := exists_of_eat? hquestion
  obtain hyes | ⟨⟨yes, r₃, h₃⟩, hyes, he⟩ := Except.bind_eq_error_iff.1 he
  · refine (ih.later .expression (by omega) (forget_error hyes)).within
      (front ++ [⟨.punct .question, o₁⟩]) (by simp) fun hgo => ?_
    obtain ⟨more, e, hderives⟩ := hgo
    refine ⟨more ++ .punct .colon :: any, .conditional condition e e₀, ?_⟩
    simpa using Derives.conditional hfront hderives hany
  obtain ⟨mid, rfl, hmid⟩ := exists_of_ok (p := .expression) (forget_ok hyes)
  obtain hcolon | ⟨⟨r₄, h₄⟩, hcolon, he⟩ := Except.bind_eq_error_iff.1 he
  · obtain rfl := eq_of_expect hcolon
    refine stuck_after (front ++ ⟨.punct .question, o₁⟩ :: mid) (by simp)
      ⟨.punct .colon :: any, .conditional condition yes e₀, ?_⟩
    simpa using Derives.conditional hfront hmid hany
  obtain ⟨o₂, rfl⟩ := exists_of_expect hcolon
  obtain hno | ⟨⟨no, r₅, h₅⟩, hno, he⟩ := Except.bind_eq_error_iff.1 he
  · refine (ih.later .expression (by grind) (forget_error hno)).within
      (front ++ ⟨.punct .question, o₁⟩ :: (mid ++ [⟨.punct .colon, o₂⟩])) (by simp)
      fun hgo => ?_
    obtain ⟨more, e, hderives⟩ := hgo
    refine ⟨more, .conditional condition yes e, ?_⟩
    simpa using Derives.conditional hfront hmid hderives
  · cases he

/-- So are operands with operators between them. -/
theorem stuck_of_binary {min : Nat} (ih : StuckInside (.binary min) ts)
    (he : readPhrase (.binary min) ts = .error err) : Stuck (.binary min) ts err := by
  replace he := Except.map_eq_error_iff.1 he
  rw [binary] at he
  obtain hleft | ⟨⟨left, r₁, h₁⟩, hleft, he⟩ := Except.bind_eq_error_iff.1 he
  · refine (ih.inside .unary (by simp [Phrase.rank]) (forget_error hleft)).within []
      rfl fun hgo hmin => ?_
    obtain ⟨more, e, hderives⟩ := hgo
    exact ⟨more, e, Derives.loosen hmin (.unary hderives)⟩
  obtain ⟨front, rfl, hfront⟩ := exists_of_ok (p := .unary) (forget_ok hleft)
  obtain hrest | ⟨⟨e, r₂, h₂⟩, hrest, he⟩ := Except.bind_eq_error_iff.1 he
  · refine (ih.later (.binaryRest min left) h₁ (forget_error hrest)).within front rfl
      fun hgo hmin => ?_
    obtain ⟨more, e, hderives⟩ :=
      hgo hmin (.unary hfront) fun t _ => weaker_levels (Nat.le_succ _) t.tok
    exact ⟨more, e, by simpa using hderives⟩
  · cases he

/-- So is what goes on with an operand. -/
theorem stuck_of_binaryRest {min : Nat} {left : Expr} (ih : StuckInside (.binaryRest min left) ts)
    (he : readPhrase (.binaryRest min left) ts = .error err) :
    Stuck (.binaryRest min left) ts err := by
  replace he := Except.map_eq_error_iff.1 he
  cases ts with
  | nil =>
    rw [binaryRest] at he
    cases he
  | cons t ts =>
    rw [binaryRest] at he
    split at he
    · cases he
    next op n hop =>
    split at he
    · cases he
    next hlt =>
    obtain ⟨p, l, htok, rfl, hmem⟩ := binaryOp?_eq_some_iff.1 hop
    have hmin : min ≤ l := by omega
    -- the operator goes with an operand before it that binds as tightly
    have hoperator : ∀ {front back : List Tok} {level : Nat} {right : Expr}, min ≤ level →
        Derives (.binary level) front left → Next (Weaker (level + 1)) (t :: ts) →
        Derives (.binary (l + 1)) back right →
        Derives (.binary l) (front ++ t.tok :: back) (.binary op left right) := by
      intro front back level right _ hfront hweaker hback
      have hle : l + 1 ≤ level + 1 := next_cons.1 hweaker op (l + 1) hop
      rw [htok]
      exact .operator hmem (hfront.loosen (Nat.le_of_succ_le_succ hle)) hback
    obtain hright | ⟨⟨right, r₁, h₁⟩, hright, he⟩ := Except.bind_eq_error_iff.1 he
    · refine (ih.later (.binary (l + 1)) (by simp) (forget_error hright)).within
        [t] rfl fun hgo front level hle hfront hweaker => ?_
      obtain ⟨more, e, hderives⟩ := hgo (lt_levels hmem)
      refine ⟨more, .binary op left e, ?_⟩
      simpa using (hoperator hle hfront hweaker hderives).loosen hmin
    obtain ⟨back, rfl, hback⟩ := exists_of_ok (p := .binary (l + 1)) (forget_ok hright)
    obtain ⟨hderived, hnext⟩ := hback (lt_levels hmem)
    obtain hrest | ⟨⟨e, r₂, h₂⟩, hrest, he⟩ := Except.bind_eq_error_iff.1 he
    · refine (ih.later (.binaryRest min (.binary op left right)) (by grind)
        (forget_error hrest)).within (t :: back) rfl
        fun hgo front level hle hfront hweaker => ?_
      obtain ⟨more, e, hderives⟩ := hgo hmin (hoperator hle hfront hweaker hderived) hnext
      exact ⟨more, e, by simpa using hderives⟩
    · cases he

/-- So is an operand with its signs. -/
theorem stuck_of_unary (ih : StuckInside .unary ts) (he : readPhrase .unary ts = .error err) :
    Stuck .unary ts err := by
  have hpostfixed : readPhrase .postfixed ts = .error err → Stuck .unary ts err := by
    intro he
    refine (ih.inside .postfixed (by simp [Phrase.rank]) he).within [] rfl fun hgo => ?_
    obtain ⟨more, e, hderives⟩ := hgo
    exact ⟨more, e, .operand hderives⟩
  replace he := Except.map_eq_error_iff.1 he
  cases ts with
  | nil =>
    rw [unary] at he
    exact hpostfixed (forget_error he)
  | cons t ts =>
    rw [unary] at he
    split at he
    · exact hpostfixed (forget_error he)
    next op hop =>
    obtain ⟨p, htok, hmem⟩ := unaryOp?_eq_some_iff.1 hop
    obtain hoperand | ⟨⟨operand, r₁, h₁⟩, hoperand, he⟩ := Except.bind_eq_error_iff.1 he
    · refine (ih.later .unary (by simp) (forget_error hoperand)).within [t] rfl fun hgo => ?_
      obtain ⟨more, e, hderives⟩ := hgo
      refine ⟨more, .unary op e, ?_⟩
      rw [List.map_singleton, htok]
      exact .sign hmem hderives
    · cases he

/-- So is a primary expression with what is attached to it. -/
theorem stuck_of_postfixed (ih : StuckInside .postfixed ts)
    (he : readPhrase .postfixed ts = .error err) : Stuck .postfixed ts err := by
  replace he := Except.map_eq_error_iff.1 he
  rw [postfixed] at he
  obtain hprimary | ⟨⟨e, r₁, h₁⟩, hprimary, he⟩ := Except.bind_eq_error_iff.1 he
  · refine (ih.inside .primary (by simp [Phrase.rank]) (forget_error hprimary)).within [] rfl
      fun hgo => ?_
    obtain ⟨more, e, hderives⟩ := hgo
    exact ⟨more, e, .primary hderives⟩
  obtain ⟨front, rfl, hfront⟩ := exists_of_ok (p := .primary) (forget_ok hprimary)
  obtain hrest | ⟨⟨e', r₂, h₂⟩, hrest, he⟩ := Except.bind_eq_error_iff.1 he
  · refine (ih.later (.postfixRest e) h₁ (forget_error hrest)).within front rfl fun hgo => ?_
    obtain ⟨more, e', hderives⟩ := hgo (.primary hfront)
    exact ⟨more, e', by simpa using hderives⟩
  · cases he

/-- What is attached is stuck there, too, or behind a point without a name. -/
theorem stuck_of_postfixRest {e : Expr} (ih : StuckInside (.postfixRest e) ts)
    (he : readPhrase (.postfixRest e) ts = .error err) : Stuck (.postfixRest e) ts err := by
  replace he := Except.map_eq_error_iff.1 he
  obtain ⟨any, e₀, hany⟩ := derives_something
  unfold postfixRest at he
  split at he
  · next o₁ name o₂ ts =>
    obtain hrest | ⟨⟨e₁, r₁, h₁⟩, hrest, he⟩ := Except.bind_eq_error_iff.1 he
    · refine (ih.later (.postfixRest (.member e name)) (Nat.lt_succ_of_lt (by simp))
        (forget_error hrest)).within [⟨.punct .dot, o₁⟩, ⟨.ident name, o₂⟩] rfl
        fun hgo front hfront => ?_
      obtain ⟨more, e', hderives⟩ := hgo (.member hfront)
      exact ⟨more, e', by simpa using hderives⟩
    · cases he
  · next o ts hname =>
    obtain rfl := Except.error.inj he
    refine ⟨[⟨.punct .dot, o⟩], ?_, fun {front} hfront => ?_⟩
    · cases ts with
      | nil => exact .inl rfl
      | cons t ts =>
        refine .inr ⟨rfl, [], o, t, rfl, fun name ht => ?_, rfl⟩
        obtain ⟨tok, o'⟩ := t
        obtain rfl : tok = .ident name := ht
        exact hname name o' ts rfl
    · exact ⟨[.ident ""], .member e "", .member hfront⟩
  · next o ts =>
    obtain hkey | ⟨⟨key, r₁, h₁⟩, hkey, he⟩ := Except.bind_eq_error_iff.1 he
    · refine (ih.later .expression (by simp) (forget_error hkey)).within [⟨.punct .lbracket, o⟩]
        rfl fun hgo front hfront => ?_
      obtain ⟨more, key, hderives⟩ := hgo
      refine ⟨more ++ [.punct .rbracket], .index e key, ?_⟩
      simpa using Derives.index hfront hderives
    obtain ⟨inner, rfl, hinner⟩ := exists_of_ok (p := .expression) (forget_ok hkey)
    obtain hclose | ⟨⟨r₂, h₂⟩, hclose, he⟩ := Except.bind_eq_error_iff.1 he
    · obtain rfl := eq_of_expect hclose
      refine stuck_after (⟨.punct .lbracket, o⟩ :: inner) rfl fun {front} hfront => ?_
      refine ⟨[.punct .rbracket], .index e key, ?_⟩
      simpa using Derives.index hfront hinner
    obtain ⟨o', rfl⟩ := exists_of_expect hclose
    obtain hrest | ⟨⟨e₁, r₃, h₃⟩, hrest, he⟩ := Except.bind_eq_error_iff.1 he
    · refine (ih.later (.postfixRest (.index e key)) (by grind)
        (forget_error hrest)).within
        (⟨.punct .lbracket, o⟩ :: (inner ++ [⟨.punct .rbracket, o'⟩])) (by simp)
        fun hgo front hfront => ?_
      obtain ⟨more, e', hderives⟩ := hgo (.index hfront hinner)
      exact ⟨more, e', by simpa using hderives⟩
    · cases he
  · next o ts =>
    obtain hargs | ⟨⟨args, r₁, h₁⟩, hargs, he⟩ := Except.bind_eq_error_iff.1 he
    · refine (ih.later (.items .rparen) (by simp) (forget_error hargs)).within
        [⟨.punct .lparen, o⟩] rfl fun hgo front hfront => ?_
      obtain ⟨more, args, hderives⟩ := hgo
      refine ⟨more ++ [.punct .rparen], .call e args, ?_⟩
      simpa using Derives.call hfront hderives
    obtain ⟨inner, rfl, toks, htoks, hinner⟩ :=
      exists_of_ok (p := .items .rparen) (forget_ok hargs)
    obtain hrest | ⟨⟨e₁, r₂, h₂⟩, hrest, he⟩ := Except.bind_eq_error_iff.1 he
    · refine (ih.later (.postfixRest (.call e args)) (by grind)
        (forget_error hrest)).within (⟨.punct .lparen, o⟩ :: inner) rfl
        fun hgo front hfront => ?_
      obtain ⟨more, e', hderives⟩ := hgo (.call hfront hinner)
      exact ⟨more, e', by simpa [htoks] using hderives⟩
    · cases he
  · cases he

/-- Items are stuck in one of them, or where neither a comma nor the closing mark stands. -/
theorem stuck_of_items {close : Punct} (ih : StuckInside (.items close) ts)
    (he : readPhrase (.items close) ts = .error err) : Stuck (.items close) ts err := by
  replace he := Except.map_eq_error_iff.1 he
  rw [items] at he
  split at he
  · cases he
  obtain hitem | ⟨⟨e, r₁, h₁⟩, hitem, he⟩ := Except.bind_eq_error_iff.1 he
  · refine (ih.inside .expression (by simp [Phrase.rank]) (forget_error hitem)).within [] rfl
      fun hgo => ?_
    obtain ⟨more, e, hderives⟩ := hgo
    exact ⟨more, [e], .lastItem hderives⟩
  obtain ⟨front, rfl, hfront⟩ := exists_of_ok (p := .expression) (forget_ok hitem)
  dsimp only at he
  split at he
  · obtain hlast | ⟨⟨r₂, h₂⟩, hlast, he⟩ := Except.bind_eq_error_iff.1 he
    · obtain rfl := eq_of_expect hlast
      exact stuck_after front rfl ⟨[], [e], by simpa using Derives.lastItem hfront⟩
    · cases he
  · next r₂ h₂ hcomma =>
    obtain ⟨o, rfl⟩ := exists_of_eat? hcomma
    obtain hmore | ⟨⟨es, r₃, h₃⟩, hmore, he⟩ := Except.bind_eq_error_iff.1 he
    · refine (ih.later (.items close) (by grind) (forget_error hmore)).within
        (front ++ [⟨.punct .comma, o⟩]) (by simp) fun hgo => ?_
      obtain ⟨more, es, hderives⟩ := hgo
      exact ⟨more, e :: es, by simpa using Derives.item hfront hderives⟩
    · cases he

/-- So are the entries of an object. -/
theorem stuck_of_entries (ih : StuckInside .entries ts)
    (he : readPhrase .entries ts = .error err) : Stuck .entries ts err := by
  replace he := Except.map_eq_error_iff.1 he
  rw [entries] at he
  split at he
  · cases he
  obtain hentry | ⟨⟨named, r₁, h₁⟩, hentry, he⟩ := Except.bind_eq_error_iff.1 he
  · refine (ih.inside .entry (by simp [Phrase.rank]) (forget_error hentry)).within [] rfl
      fun hgo => ?_
    obtain ⟨more, named, hderives⟩ := hgo
    exact ⟨more, [named], .lastEntry hderives⟩
  obtain ⟨front, rfl, hfront⟩ := exists_of_ok (p := .entry) (forget_ok hentry)
  dsimp only at he
  split at he
  · obtain hlast | ⟨⟨r₂, h₂⟩, hlast, he⟩ := Except.bind_eq_error_iff.1 he
    · obtain rfl := eq_of_expect hlast
      exact stuck_after front rfl ⟨[], [named], by simpa using Derives.lastEntry hfront⟩
    · cases he
  · next r₂ h₂ hcomma =>
    obtain ⟨o, rfl⟩ := exists_of_eat? hcomma
    obtain hmore | ⟨⟨es, r₃, h₃⟩, hmore, he⟩ := Except.bind_eq_error_iff.1 he
    · refine (ih.later .entries (by grind) (forget_error hmore)).within
        (front ++ [⟨.punct .comma, o⟩]) (by simp) fun hgo => ?_
      obtain ⟨more, es, hderives⟩ := hgo
      exact ⟨more, named :: es, by simpa using Derives.entry hfront hderives⟩
    · cases he

/-- An entry is stuck in its value, or at a token that is no key. -/
theorem stuck_of_entry (ih : StuckInside .entry ts) (he : readPhrase .entry ts = .error err) :
    Stuck .entry ts err := by
  have hsomething : Phrase.GoesOn .entry ts [] := ⟨[.string ""], _, .short (.string "")⟩
  replace he := Except.map_eq_error_iff.1 he
  cases ts with
  | nil =>
    rw [entry] at he
    obtain rfl := Except.error.inj he
    exact stuck_after [] rfl hsomething
  | cons t ts =>
    rw [entry] at he
    split at he
    · obtain rfl := Except.error.inj he
      exact stuck_after [] rfl hsomething
    next key hkey =>
    split at he
    · cases he
    next r₁ h₁ hcolon =>
    obtain ⟨o, rfl⟩ := exists_of_eat? hcolon
    obtain hvalue | ⟨⟨value, r₂, h₂⟩, hvalue, he⟩ := Except.bind_eq_error_iff.1 he
    · refine (ih.later .expression (by grind) (forget_error hvalue)).within
        [t, ⟨.punct .colon, o⟩] rfl fun hgo => ?_
      obtain ⟨more, value, hderives⟩ := hgo
      exact ⟨more, (key, value), .full (entryKey?_eq_some_iff.1 hkey) hderives⟩
    · cases he

/-- A primary expression is stuck in its brackets, or at a token that begins none. -/
theorem stuck_of_primary (ih : StuckInside .primary ts)
    (he : readPhrase .primary ts = .error err) : Stuck .primary ts err := by
  have hsomething : ∀ {ts}, Phrase.GoesOn .primary ts [] := ⟨[.string ""], _, .string ""⟩
  replace he := Except.map_eq_error_iff.1 he
  unfold primary at he
  split at he
  · obtain rfl := Except.error.inj he
    exact stuck_after [] rfl hsomething
  · cases he
  · cases he
  · split at he
    · cases he
    · split at he
      · cases he
      · obtain rfl := Except.error.inj he
        exact stuck_after [] rfl hsomething
  · next o ts =>
    obtain hinner | ⟨⟨e, r₁, h₁⟩, hinner, he⟩ := Except.bind_eq_error_iff.1 he
    · refine (ih.later .expression (by simp) (forget_error hinner)).within [⟨.punct .lparen, o⟩]
        rfl fun hgo => ?_
      obtain ⟨more, e, hderives⟩ := hgo
      refine ⟨more ++ [.punct .rparen], e, ?_⟩
      simpa using Derives.parens hderives
    obtain ⟨inner, rfl, hderived⟩ := exists_of_ok (p := .expression) (forget_ok hinner)
    obtain hclose | ⟨⟨r₂, h₂⟩, hclose, he⟩ := Except.bind_eq_error_iff.1 he
    · obtain rfl := eq_of_expect hclose
      exact stuck_after (⟨.punct .lparen, o⟩ :: inner) rfl
        ⟨[.punct .rparen], e, by simpa using Derives.parens hderived⟩
    · cases he
  · next o ts =>
    obtain hitems | ⟨⟨es, r₁, h₁⟩, hitems, he⟩ := Except.bind_eq_error_iff.1 he
    · refine (ih.later (.items .rbracket) (by simp) (forget_error hitems)).within
        [⟨.punct .lbracket, o⟩] rfl fun hgo => ?_
      obtain ⟨more, es, hderives⟩ := hgo
      exact ⟨more ++ [.punct .rbracket], .array es, by simpa using Derives.array hderives⟩
    · cases he
  · next o ts =>
    obtain hentries | ⟨⟨es, r₁, h₁⟩, hentries, he⟩ := Except.bind_eq_error_iff.1 he
    · refine (ih.later .entries (by simp) (forget_error hentries)).within
        [⟨.punct .lbrace, o⟩] rfl fun hgo => ?_
      obtain ⟨more, es, hderives⟩ := hgo
      exact ⟨more ++ [.punct .rbrace], .object es, by simpa using Derives.object hderives⟩
    · cases he
  · obtain rfl := Except.error.inj he
    exact stuck_after [] rfl hsomething

end

/-- The parser finds a mistake in a phrase where the tokens before it can be finished. -/
theorem stuck_of_readPhrase (p : Phrase) (ts : List Token) {err : ParseError}
    (h : readPhrase p ts = .error err) : Stuck p ts err := by
  have ih : StuckInside p ts := ⟨fun q _ _ hq => stuck_of_readPhrase q ts hq,
    fun q ts' _ _ hq => stuck_of_readPhrase q ts' hq⟩
  cases p with
  | expression => exact stuck_of_expression ih h
  | binary min => exact stuck_of_binary ih h
  | binaryRest min left => exact stuck_of_binaryRest ih h
  | unary => exact stuck_of_unary ih h
  | postfixed => exact stuck_of_postfixed ih h
  | postfixRest e => exact stuck_of_postfixRest ih h
  | items close => exact stuck_of_items ih h
  | entries => exact stuck_of_entries ih h
  | entry => exact stuck_of_entry ih h
  | primary => exact stuck_of_primary ih h
termination_by (ts.length, p.rank)

/-! ## expressions -/

/-- The parser of expressions finds a mistake where the tokens before it can be finished. -/
theorem exists_of_expression_error {ts : List Token} {err : ParseError}
    (h : expression ts = .error err) : ∃ front more e, Stopped err ts front ∧
      Derives .expression (front.map Token.tok ++ more) e := by
  obtain ⟨front, hstopped, more, e, hderives⟩ :=
    stuck_of_readPhrase .expression ts (forget_error h)
  exact ⟨front, more, e, hstopped, hderives⟩

end Stencil.Script.Parse
