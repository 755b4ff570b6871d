import Stencil.Proofs.Script.Phrase

/-!
# Stencil.Proofs.Script.Grammar

The grammar of expressions as it is written down, without regard to how it is read:

```
Expression ::= Binary₀ | Binary₀ ? Expression : Expression
Binaryₗ    ::= Binaryₗ₊₁ | Binaryₗ operatorₗ Binaryₗ₊₁        (l = 0, …, 5)
Binary₆    ::= Unary
Unary      ::= sign Unary | Postfixed
Postfixed  ::= Primary | Postfixed . word | Postfixed [ Expression ] | Postfixed ( Items )
Primary    ::= number | string | constant | name
             | ( Expression ) | [ Items ] | { Entries }
Items      ::= | Expression | Expression , Items
Entries    ::= | Entry | Entry , Entries
Entry      ::= key : Expression | key
```

`Derives c toks v` says that the tokens `toks` derive the tree `v` as a `c`. The rules
look at no token after those that they derive and say nothing of which one to take.
Here are the grammar, what its tokens are to the parser, and what a derivation begins
with; that the parser reads what is derived is proved in
`Stencil.Proofs.Script.Derivation`.
-/

namespace Stencil.Script.Parse

/-! ## words and marks -/

/-- The binary operators of a level. Those of the first level bind least. -/
def operators : Nat → List (Punct × BinaryOp)
  | 0 => [(.or, .or)]
  | 1 => [(.and, .and)]
  | 2 => [(.strictEq, .eq), (.looseEq, .eq), (.strictNe, .ne), (.looseNe, .ne)]
  | 3 => [(.lt, .lt), (.le, .le), (.gt, .gt), (.ge, .ge)]
  | 4 => [(.plus, .add), (.minus, .sub)]
  | 5 => [(.star, .mul), (.slash, .div), (.percent, .rem)]
  | _ => []

/-- The number of levels of binary operators. -/
def levels : Nat := 6

/-- The signs that may stand before an operand. -/
def signs : List (Punct × UnaryOp) := [(.bang, .not), (.minus, .neg), (.plus, .plus)]

/-- The words that stand for a value. -/
def constants : List (String × Json) :=
  [("true", .bool true), ("false", .bool false), ("null", .null), ("undefined", .null)]

/-- The tokens that may name an entry of an object. Any word may, a keyword too. -/
inductive EntryKey : Tok → String → Prop where
  | word (name : String) : EntryKey (.ident name) name
  | string (s : String) : EntryKey (.string s) s
  | number (x : Binary64) : EntryKey (.number x) (numberText x)

/-! ## the grammar -/

/-- What tokens can be derived as. -/
inductive Category where
  | expression
  | binary (level : Nat)
  | unary
  | postfixed
  | primary
  | items
  | entries
  | entry

/-- The tree of what is derived. -/
abbrev Category.Value : Category → Type
  | .items => List Expr
  | .entries => List (String × Expr)
  | .entry => String × Expr
  | _ => Expr

/-- The tokens that are derived, with their trees. -/
inductive Derives : (c : Category) → List Tok → c.Value → Prop where
  | plain {toks : List Tok} {e : Expr} : Derives (.binary 0) toks e → Derives .expression toks e
  | conditional {front mid back : List Tok} {condition yes no : Expr} :
    Derives (.binary 0) front condition → Derives .expression mid yes →
    Derives .expression back no →
    Derives .expression (front ++ .punct .question :: (mid ++ .punct .colon :: back))
      (.conditional condition yes no)
  | tighter {toks : List Tok} {e : Expr} {level : Nat} :
    Derives (.binary (level + 1)) toks e → Derives (.binary level) toks e
  | operator {front back : List Tok} {left right : Expr} {level : Nat} {p : Punct} {op : BinaryOp} :
    (p, op) ∈ operators level → Derives (.binary level) front left →
    Derives (.binary (level + 1)) back right →
    Derives (.binary level) (front ++ .punct p :: back) (.binary op left right)
  | unary {toks : List Tok} {e : Expr} : Derives .unary toks e → Derives (.binary levels) toks e
  | sign {toks : List Tok} {e : Expr} {p : Punct} {op : UnaryOp} :
    (p, op) ∈ signs → Derives .unary toks e → Derives .unary (.punct p :: toks) (.unary op e)
  | operand {toks : List Tok} {e : Expr} : Derives .postfixed toks e → Derives .unary toks e
  | primary {toks : List Tok} {e : Expr} : Derives .primary toks e → Derives .postfixed toks e
  | member {toks : List Tok} {e : Expr} {name : String} :
    Derives .postfixed toks e →
    Derives .postfixed (toks ++ [.punct .dot, .ident name]) (.member e name)
  | index {toks inner : List Tok} {e key : Expr} :
    Derives .postfixed toks e → Derives .expression inner key →
    Derives .postfixed (toks ++ .punct .lbracket :: (inner ++ [.punct .rbracket])) (.index e key)
  | call {toks inner : List Tok} {e : Expr} {args : List Expr} :
    Derives .postfixed toks e → Derives .items inner args →
    Derives .postfixed (toks ++ .punct .lparen :: (inner ++ [.punct .rparen])) (.call e args)
  | number (x : Binary64) : Derives .primary [.number x] (.literal (ofBinary64 x))
  | string (s : String) : Derives .primary [.string s] (.literal (.string s))
  | constant {word : String} {value : Json} :
    (word, value) ∈ constants → Derives .primary [.ident word] (.literal value)
  | name {name : String} : Keyword.ofName? name = none →
    Derives .primary [.ident name] (.ident name)
  | parens {inner : List Tok} {e : Expr} : Derives .expression inner e →
    Derives .primary (.punct .lparen :: (inner ++ [.punct .rparen])) e
  | array {inner : List Tok} {es : List Expr} : Derives .items inner es →
    Derives .primary (.punct .lbracket :: (inner ++ [.punct .rbracket])) (.array es)
  | object {inner : List Tok} {es : List (String × Expr)} : Derives .entries inner es →
    Derives .primary (.punct .lbrace :: (inner ++ [.punct .rbrace])) (.object es)
  | noItems : Derives .items [] []
  | lastItem {toks : List Tok} {e : Expr} : Derives .expression toks e → Derives .items toks [e]
  | item {front back : List Tok} {e : Expr} {es : List Expr} :
    Derives .expression front e → Derives .items back es →
    Derives .items (front ++ .punct .comma :: back) (e :: es)
  | noEntries : Derives .entries [] []
  | lastEntry {toks : List Tok} {entry : String × Expr} :
    Derives .entry toks entry → Derives .entries toks [entry]
  | entry {front back : List Tok} {entry : String × Expr} {es : List (String × Expr)} :
    Derives .entry front entry → Derives .entries back es →
    Derives .entries (front ++ .punct .comma :: back) (entry :: es)
  | full {toks : List Tok} {tok : Tok} {key : String} {value : Expr} :
    EntryKey tok key → Derives .expression toks value →
    Derives .entry (tok :: .punct .colon :: toks) (key, value)
  | short {tok : Tok} {key : String} : EntryKey tok key → Derives .entry [tok] (key, .ident key)

/-! ## what the tokens are to the parser -/

theorem binaryOp?_eq_some_iff {tok : Tok} {op : BinaryOp} {n : Nat} :
    binaryOp? tok = some (op, n) ↔
      ∃ p level, tok = .punct p ∧ n = level + 1 ∧ (p, op) ∈ operators level := by
  constructor
  · intro h
    unfold binaryOp? at h
    split at h <;> cases h <;> exact ⟨_, _, rfl, rfl, by simp [operators]⟩
  · rintro ⟨p, level, rfl, rfl, h⟩
    unfold operators at h
    split at h <;> simp at h <;> grind [binaryOp?]

/-- There are no more levels than are counted. -/
theorem lt_levels {level : Nat} {p : Punct} {op : BinaryOp} (h : (p, op) ∈ operators level) :
    level < levels := by
  unfold operators at h
  split at h
  all_goals first | decide | cases h

theorem unaryOp?_eq_some_iff {tok : Tok} {op : UnaryOp} :
    unaryOp? tok = some op ↔ ∃ p, tok = .punct p ∧ (p, op) ∈ signs := by
  constructor
  · intro h
    unfold unaryOp? at h
    split at h <;> cases h <;> exact ⟨_, rfl, by simp [signs]⟩
  · rintro ⟨p, rfl, h⟩
    simp only [signs, List.mem_cons, List.not_mem_nil, or_false, Prod.mk.injEq] at h
    obtain ⟨rfl, rfl⟩ | ⟨rfl, rfl⟩ | ⟨rfl, rfl⟩ := h <;> rfl

theorem entryKey?_eq_some_iff {tok : Tok} {key : String} :
    entryKey? tok = some key ↔ EntryKey tok key := by
  constructor
  · intro h
    cases tok <;> cases h <;> constructor
  · rintro (name | s | x) <;> rfl

/-- A keyword is spelled in one way. -/
theorem eq_spelling_of_ofName? {word : String} {k : Keyword} (h : Keyword.ofName? word = some k) :
    word = k.spelling := by
  have hspelling := List.find?_some h
  exact (by simpa using hspelling : k.spelling = word).symm

theorem mem_constants_iff {word : String} {value : Json} :
    (word, value) ∈ constants ↔
      ∃ k, Keyword.ofName? word = some k ∧ constant? k = some value := by
  constructor
  · intro h
    simp only [constants, List.mem_cons, List.not_mem_nil, or_false, Prod.mk.injEq] at h
    obtain ⟨rfl, rfl⟩ | ⟨rfl, rfl⟩ | ⟨rfl, rfl⟩ | ⟨rfl, rfl⟩ := h
    · exact ⟨.trueWord, rfl, rfl⟩
    · exact ⟨.falseWord, rfl, rfl⟩
    · exact ⟨.nullWord, rfl, rfl⟩
    · exact ⟨.undefinedWord, rfl, rfl⟩
  · rintro ⟨k, hk, hvalue⟩
    rw [eq_spelling_of_ofName? hk]
    cases k <;> cases hvalue <;> simp [constants, Keyword.spelling]

/-! ## first tokens -/

/-- Whether a token is the first one of a primary expression. -/
def OpensPrimary : Tok → Prop
  | .ident word => ∀ k, Keyword.ofName? word = some k → (constant? k).isSome = true
  | .number _ | .string _ | .punct .lparen | .punct .lbracket | .punct .lbrace => True
  | _ => False

/-- Whether tokens begin with one that is the first of a primary expression, or with a
sign if `signed` allows it. -/
def Opens (signed : Prop) (toks : List Tok) : Prop :=
  ∃ tok rest, toks = tok :: rest ∧
    (OpensPrimary tok ∨ signed ∧ ∃ p op, tok = .punct p ∧ (p, op) ∈ signs)

/-- What is known of the first token of what is derived. -/
def Category.Begins : Category → List Tok → Prop
  | .primary, toks | .postfixed, toks => Opens False toks
  | .unary, toks | .binary _, toks | .expression, toks => Opens True toks
  | .items, _ | .entries, _ | .entry, _ => True

theorem Opens.append {signed : Prop} {toks : List Tok} (h : Opens signed toks) (more : List Tok) :
    Opens signed (toks ++ more) := by
  obtain ⟨tok, rest, rfl, htok⟩ := h
  exact ⟨tok, rest ++ more, rfl, htok⟩

theorem Derives.begins {c : Category} {toks : List Tok} {v : c.Value} (h : Derives c toks v) :
    c.Begins toks := by
  induction h with
  | plain h ih => exact ih
  | conditional hcondition hyes hno ih ih₁ ih₂ => exact ih.append _
  | tighter h ih => exact ih
  | operator hop hleft hright ih ih₁ => exact ih.append _
  | unary h ih => exact ih
  | sign hop h ih => exact ⟨_, _, rfl, .inr ⟨trivial, _, _, rfl, hop⟩⟩
  | operand h ih =>
    obtain ⟨tok, rest, rfl, htok⟩ := ih
    exact ⟨tok, rest, rfl, .inl (htok.resolve_right fun h => h.1)⟩
  | primary h ih => exact ih
  | member h ih => exact ih.append _
  | index h hkey ih ih₁ => exact ih.append _
  | call h hargs ih ih₁ => exact ih.append _
  | number x => exact ⟨_, _, rfl, .inl trivial⟩
  | string s => exact ⟨_, _, rfl, .inl trivial⟩
  | constant hword =>
    obtain ⟨k, hk, hvalue⟩ := mem_constants_iff.1 hword
    refine ⟨_, _, rfl, .inl fun k' hk' => ?_⟩
    obtain rfl : k = k' := Option.some.inj (hk.symm.trans hk')
    rw [hvalue]
    rfl
  | name hname =>
    refine ⟨_, _, rfl, .inl fun k hk => ?_⟩
    rw [hname] at hk
    cases hk
  | parens h ih => exact ⟨_, _, rfl, .inl trivial⟩
  | array h ih => exact ⟨_, _, rfl, .inl trivial⟩
  | object h ih => exact ⟨_, _, rfl, .inl trivial⟩
  | noItems => trivial
  | lastItem h ih => trivial
  | item h hmore ih ih₁ => trivial
  | noEntries => trivial
  | lastEntry h ih => trivial
  | entry h hmore ih ih₁ => trivial
  | full hkey hvalue ih => trivial
  | short hkey => trivial

/-- A looser category derives what a tighter one does. -/
theorem Derives.loosen {level level' : Nat} {toks : List Tok} {e : Expr} (hle : level ≤ level')
    (h : Derives (.binary level') toks e) : Derives (.binary level) toks e := by
  induction hle with
  | refl => exact h
  | step hle ih => exact ih h.tighter

end Stencil.Script.Parse
