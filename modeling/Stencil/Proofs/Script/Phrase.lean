import Stencil.Proofs.Results
import Stencil.Script.Parse.Expression

/-!
# Stencil.Proofs.Script.Phrase

The grammar of expressions, with one rule for each way in which the parser goes
on. `Reads p ts v rest` says that `ts` begins with a phrase of the kind `p` that
has the tree `v`, and that `rest` follows it.

A phrase ends where the next token cannot belong to it (`Next`), so the grammar
is that of the longest phrases, and the parser reads just these:
`readPhrase_eq_ok_iff`.
-/

namespace Stencil.Script.Parse

/-- What the first of the tokens is, if there is one. -/
def Next (P : Tok → Prop) (ts : List Token) : Prop := ∀ t, ts.head? = some t → P t.tok

/-- Where no token is left, the next one is of any kind. -/
@[simp] theorem next_nil (P : Tok → Prop) : Next P [] := fun _ h => by cases h

/-- The next token is the first one. -/
@[simp] theorem next_cons {P : Tok → Prop} {t : Token} {ts : List Token} :
    Next P (t :: ts) ↔ P t.tok :=
  ⟨fun h => h t rfl, fun h t' ht => by cases ht; exact h⟩

/-- What is weaker holds of the next token, too. -/
theorem Next.imp {P Q : Tok → Prop} {ts : List Token} (h : Next P ts)
    (himp : ∀ tok, P tok → Q tok) : Next Q ts := fun t ht => himp t.tok (h t ht)

/-! ## the grammar -/

/-- The kinds of phrases that expressions are made of, one for each function of
the parser. -/
inductive Phrase where
  | expression
  | binary (min : Nat)
  | binaryRest (min : Nat) (left : Expr)
  | unary
  | postfixed
  | postfixRest (e : Expr)
  | items (close : Punct)
  | entries
  | entry
  | primary

/-- What a phrase is read as. -/
abbrev Phrase.Value : Phrase → Type
  | .items _ => List Expr
  | .entries => List (String × Expr)
  | .entry => String × Expr
  | _ => Expr

/-- The phrases at the front of tokens. -/
inductive Reads : (p : Phrase) → List Token → p.Value → List Token → Prop where
  | plain {ts r : List Token} {e : Expr} :
    Reads (.binary 0) ts e r → Next (· ≠ .punct .question) r → Reads .expression ts e r
  | conditional {ts r₁ r₂ r : List Token} {condition yes no : Expr} {o₁ o₂ : Nat} :
    Reads (.binary 0) ts condition (⟨.punct .question, o₁⟩ :: r₁) →
    Reads .expression r₁ yes (⟨.punct .colon, o₂⟩ :: r₂) → Reads .expression r₂ no r →
    Reads .expression ts (.conditional condition yes no) r
  | binary {ts r r' : List Token} {left e : Expr} {min : Nat} :
    Reads .unary ts left r → Reads (.binaryRest min left) r e r' → Reads (.binary min) ts e r'
  | stop {r : List Token} {left : Expr} {min : Nat} :
    Next (fun tok => ∀ op level, binaryOp? tok = some (op, level) → level ≤ min) r →
    Reads (.binaryRest min left) r left r
  | operator {t : Token} {ts r r' : List Token} {left right e : Expr} {op : BinaryOp}
    {level min : Nat} :
    binaryOp? t.tok = some (op, level) → min < level → Reads (.binary level) ts right r →
    Reads (.binaryRest min (.binary op left right)) r e r' →
    Reads (.binaryRest min left) (t :: ts) e r'
  | operand {t : Token} {ts r : List Token} {e : Expr} :
    unaryOp? t.tok = none → Reads .postfixed (t :: ts) e r → Reads .unary (t :: ts) e r
  | sign {t : Token} {ts r : List Token} {e : Expr} {op : UnaryOp} :
    unaryOp? t.tok = some op → Reads .unary ts e r → Reads .unary (t :: ts) (.unary op e) r
  | postfixed {ts r r' : List Token} {e e' : Expr} :
    Reads .primary ts e r → Reads (.postfixRest e) r e' r' → Reads .postfixed ts e' r'
  | bare {r : List Token} {e : Expr} :
    Next (fun tok => tok ≠ .punct .dot ∧ tok ≠ .punct .lbracket ∧ tok ≠ .punct .lparen) r →
    Reads (.postfixRest e) r e r
  | member {ts r : List Token} {e e' : Expr} {name : String} {o₁ o₂ : Nat} :
    Reads (.postfixRest (.member e name)) ts e' r →
    Reads (.postfixRest e) (⟨.punct .dot, o₁⟩ :: ⟨.ident name, o₂⟩ :: ts) e' r
  | index {ts r r' : List Token} {e e' key : Expr} {o₁ o₂ : Nat} :
    Reads .expression ts key (⟨.punct .rbracket, o₂⟩ :: r) →
    Reads (.postfixRest (.index e key)) r e' r' →
    Reads (.postfixRest e) (⟨.punct .lbracket, o₁⟩ :: ts) e' r'
  | call {ts r r' : List Token} {e e' : Expr} {args : List Expr} {o : Nat} :
    Reads (.items .rparen) ts args r → Reads (.postfixRest (.call e args)) r e' r' →
    Reads (.postfixRest e) (⟨.punct .lparen, o⟩ :: ts) e' r'
  | noItems {r : List Token} {close : Punct} {o : Nat} :
    Reads (.items close) (⟨.punct close, o⟩ :: r) [] r
  | lastItem {t : Token} {ts r : List Token} {e : Expr} {close : Punct} {o : Nat} :
    t.tok ≠ .punct close → close ≠ .comma →
    Reads .expression (t :: ts) e (⟨.punct close, o⟩ :: r) → Reads (.items close) (t :: ts) [e] r
  | item {t : Token} {ts r r' : List Token} {e : Expr} {es : List Expr} {close : Punct} {o : Nat} :
    t.tok ≠ .punct close → Reads .expression (t :: ts) e (⟨.punct .comma, o⟩ :: r) →
    Reads (.items close) r es r' → Reads (.items close) (t :: ts) (e :: es) r'
  | noEntries {r : List Token} {o : Nat} : Reads .entries (⟨.punct .rbrace, o⟩ :: r) [] r
  | lastEntry {t : Token} {ts r : List Token} {entry : String × Expr} {o : Nat} :
    t.tok ≠ .punct .rbrace → Reads .entry (t :: ts) entry (⟨.punct .rbrace, o⟩ :: r) →
    Reads .entries (t :: ts) [entry] r
  | entry {t : Token} {ts r r' : List Token} {entry : String × Expr}
    {entries : List (String × Expr)} {o : Nat} :
    t.tok ≠ .punct .rbrace → Reads .entry (t :: ts) entry (⟨.punct .comma, o⟩ :: r) →
    Reads .entries r entries r' → Reads .entries (t :: ts) (entry :: entries) r'
  | short {t : Token} {r : List Token} {key : String} :
    entryKey? t.tok = some key → Next (· ≠ .punct .colon) r →
    Reads .entry (t :: r) (key, .ident key) r
  | full {t : Token} {ts r : List Token} {key : String} {value : Expr} {o : Nat} :
    entryKey? t.tok = some key → Reads .expression ts value r →
    Reads .entry (t :: ⟨.punct .colon, o⟩ :: ts) (key, value) r
  | number {r : List Token} {x : Binary64} {o : Nat} :
    Reads .primary (⟨.number x, o⟩ :: r) (.literal (ofBinary64 x)) r
  | string {r : List Token} {s : String} {o : Nat} :
    Reads .primary (⟨.string s, o⟩ :: r) (.literal (.string s)) r
  | ident {r : List Token} {name : String} {o : Nat} :
    Keyword.ofName? name = none → Reads .primary (⟨.ident name, o⟩ :: r) (.ident name) r
  | constant {r : List Token} {name : String} {k : Keyword} {value : Json} {o : Nat} :
    Keyword.ofName? name = some k → constant? k = some value →
    Reads .primary (⟨.ident name, o⟩ :: r) (.literal value) r
  | parens {ts r : List Token} {e : Expr} {o₁ o₂ : Nat} :
    Reads .expression ts e (⟨.punct .rparen, o₂⟩ :: r) →
    Reads .primary (⟨.punct .lparen, o₁⟩ :: ts) e r
  | array {ts r : List Token} {es : List Expr} {o : Nat} :
    Reads (.items .rbracket) ts es r → Reads .primary (⟨.punct .lbracket, o⟩ :: ts) (.array es) r
  | object {ts r : List Token} {es : List (String × Expr)} {o : Nat} :
    Reads .entries ts es r → Reads .primary (⟨.punct .lbrace, o⟩ :: ts) (.object es) r

/-! ## punctuation marks -/

section
variable {p : Punct} {ts r : List Token}

/-- A mark is taken where it stands. -/
theorem eat?_punct (p : Punct) (o : Nat) (r : List Token) :
    eat? p (⟨.punct p, o⟩ :: r) = some (.tail _ r) := if_pos rfl

/-- Nothing is taken where another token stands. -/
theorem eat?_eq_none_iff : eat? p ts = none ↔ Next (· ≠ .punct p) ts := by
  unfold eat?
  split
  · next q o rest =>
    rw [next_cons]
    by_cases h : p = q
    · simp [h]
    · simp [h, Ne.symm h]
  · next hts =>
    simp only [true_iff]
    intro t ht htok
    obtain ⟨rest, rfl⟩ := List.head?_eq_some_iff.1 ht
    obtain ⟨tok, o⟩ := t
    obtain rfl : tok = .punct p := htok
    exact hts p o rest rfl

/-- What is taken is the mark. -/
theorem exists_of_eat? {h : r.length < ts.length} (he : eat? p ts = some ⟨r, h⟩) :
    ∃ o, ts = ⟨.punct p, o⟩ :: r := by
  unfold eat? at he
  split at he
  · next q o rest =>
    split at he
    · next hp =>
      obtain rfl : rest = r := congrArg Subtype.val (Option.some.inj he)
      exact ⟨o, by rw [hp]⟩
    · cases he
  · cases he

/-- A mark that has to stand is taken where it stands. -/
theorem expect_punct (p : Punct) (o : Nat) (r : List Token) :
    expect p (⟨.punct p, o⟩ :: r) = .ok (.tail _ r) := by
  rw [expect, eat?_punct]

/-- What is taken is the mark. -/
theorem exists_of_expect {h : r.length < ts.length} (he : expect p ts = .ok ⟨r, h⟩) :
    ∃ o, ts = ⟨.punct p, o⟩ :: r := by
  unfold expect at he
  split at he
  · next r' hr' =>
    obtain rfl : r' = ⟨r, h⟩ := Except.ok.inj he
    exact exists_of_eat? hr'
  · cases he

end

/-! ## what the parser reads -/

/-- What was read, and what is left, without the proof that it is less. -/
def forget {α : Type} {P : List Token → Prop} (read : α × Subtype P) : α × List Token :=
  (read.1, read.2.1)

/-- What the parser reads as a phrase. -/
def readPhrase : (p : Phrase) → List Token → Except ParseError (p.Value × List Token)
  | .expression, ts => (expression ts).map forget
  | .binary min, ts => (binary min ts).map forget
  | .binaryRest min left, ts => (binaryRest min left ts).map forget
  | .unary, ts => (unary ts).map forget
  | .postfixed, ts => (postfixed ts).map forget
  | .postfixRest e, ts => (postfixRest e ts).map forget
  | .items close, ts => (items close ts).map forget
  | .entries, ts => (entries ts).map forget
  | .entry, ts => (entry ts).map forget
  | .primary, ts => (primary ts).map forget

section
variable {ε α : Type} {P : List Token → Prop} {x : Except ε (α × Subtype P)} {a b : α}
  {r : List Token}

/-- What was read is still read without the proof. -/
theorem forget_ok {h : P r} (he : x = .ok (a, ⟨r, h⟩)) : x.map forget = .ok (a, r) := by
  rw [he]
  rfl

/-- What is read without the proof is read with one. -/
theorem exists_of_forget (he : x.map forget = .ok (a, r)) : ∃ h, x = .ok (a, ⟨r, h⟩) := by
  obtain ⟨⟨b, r', h⟩, hx, heq⟩ := Except.map_eq_ok_iff.1 he
  obtain ⟨rfl, rfl⟩ : b = a ∧ r' = r := Prod.mk.inj heq
  exact ⟨h, hx⟩

/-- What is read and what is left are determined. -/
theorem read_inj {left : Subtype P} {h : P r}
    (he : (.ok (a, left) : Except ε (α × Subtype P)) = .ok (b, ⟨r, h⟩)) : a = b ∧ left.1 = r := by
  obtain ⟨rfl, rfl⟩ := Prod.mk.inj (Except.ok.inj he)
  exact ⟨rfl, rfl⟩

end

/-- The place of a phrase among those that are read from the same tokens: what is
inside comes first. -/
def Phrase.rank : Phrase → Nat
  | .primary | .entry => 0
  | .postfixed | .entries => 1
  | .unary => 2
  | .binary _ => 3
  | .expression => 4
  | .items _ => 5
  | .binaryRest _ _ | .postfixRest _ => 0

/-- What the parser calls while it reads a phrase follows the grammar. -/
structure Sound (p : Phrase) (ts : List Token) : Prop where
  inside : ∀ (q : Phrase) {v : q.Value} {r : List Token}, q.rank < p.rank →
    readPhrase q ts = .ok (v, r) → Reads q ts v r
  later : ∀ (q : Phrase) {ts' : List Token} {v : q.Value} {r : List Token},
    ts'.length < ts.length → readPhrase q ts' = .ok (v, r) → Reads q ts' v r

section
variable {ts r : List Token}

/-- An expression that is read is one of the grammar, if its parts are. -/
theorem reads_of_expression {e : Expr} (ih : Sound .expression ts)
    (he : readPhrase .expression ts = .ok (e, r)) : Reads .expression ts e r := by
  replace he := exists_of_forget he
  obtain ⟨h, he⟩ := he
  rw [expression] at he
  obtain ⟨⟨condition, r₁, h₁⟩, hcondition, he⟩ := Except.bind_eq_ok_iff.1 he
  have hread := ih.inside (.binary 0) (by simp [Phrase.rank]) (forget_ok hcondition)
  dsimp only at he
  split at he
  · next hquestion =>
    obtain ⟨rfl, rfl⟩ : condition = e ∧ r₁ = r := read_inj he
    exact .plain hread (eat?_eq_none_iff.1 hquestion)
  · next r₂ h₂ hquestion =>
    obtain ⟨⟨yes, r₃, h₃⟩, hyes, he⟩ := Except.bind_eq_ok_iff.1 he
    obtain ⟨⟨r₄, h₄⟩, hcolon, he⟩ := Except.bind_eq_ok_iff.1 he
    obtain ⟨⟨no, r₅, h₅⟩, hno, he⟩ := Except.bind_eq_ok_iff.1 he
    obtain ⟨rfl, rfl⟩ : .conditional condition yes no = e ∧ r₅ = r := read_inj he
    have hread₁ := ih.later .expression (by omega) (forget_ok hyes)
    have hread₂ := ih.later .expression
      (Nat.lt_trans h₄ (Nat.lt_trans h₃ (Nat.lt_trans h₂ h₁))) (forget_ok hno)
    obtain ⟨o₁, rfl⟩ := exists_of_eat? hquestion
    obtain ⟨o₂, rfl⟩ := exists_of_expect hcolon
    exact .conditional hread hread₁ hread₂

/-- So is what binary operators connect. -/
theorem reads_of_binary {min : Nat} {e : Expr} (ih : Sound (.binary min) ts)
    (he : readPhrase (.binary min) ts = .ok (e, r)) : Reads (.binary min) ts e r := by
  replace he := exists_of_forget he
  obtain ⟨h, he⟩ := he
  rw [binary] at he
  obtain ⟨⟨left, r₁, h₁⟩, hleft, he⟩ := Except.bind_eq_ok_iff.1 he
  obtain ⟨⟨e', r₂, h₂⟩, hrest, he⟩ := Except.bind_eq_ok_iff.1 he
  obtain ⟨rfl, rfl⟩ : e' = e ∧ r₂ = r := read_inj he
  exact .binary (ih.inside .unary (by simp [Phrase.rank]) (forget_ok hleft))
    (ih.later (.binaryRest min left) h₁ (forget_ok hrest))

/-- So is what goes on with an operand. -/
theorem reads_of_binaryRest {min : Nat} {left e : Expr} (ih : Sound (.binaryRest min left) ts)
    (he : readPhrase (.binaryRest min left) ts = .ok (e, r)) :
    Reads (.binaryRest min left) ts e r := by
  replace he := exists_of_forget he
  obtain ⟨h, he⟩ := he
  cases ts with
  | nil =>
    rw [binaryRest] at he
    obtain ⟨rfl, rfl⟩ : left = e ∧ [] = r := read_inj he
    exact .stop (next_nil _)
  | cons t ts =>
    rw [binaryRest] at he
    split at he
    · next hop =>
      obtain ⟨rfl, rfl⟩ : left = e ∧ t :: ts = r := read_inj he
      exact .stop (next_cons.2 fun op level h => by rw [hop] at h; cases h)
    · next op level hop =>
      split at he
      · next hle =>
        obtain ⟨rfl, rfl⟩ : left = e ∧ t :: ts = r := read_inj he
        refine .stop (next_cons.2 fun op' level' h => ?_)
        obtain ⟨rfl, rfl⟩ : op = op' ∧ level = level' := by simpa [hop] using h
        exact hle
      · next hlt =>
        obtain ⟨⟨right, r₁, h₁⟩, hright, he⟩ := Except.bind_eq_ok_iff.1 he
        obtain ⟨⟨e', r₂, h₂⟩, hrest, he⟩ := Except.bind_eq_ok_iff.1 he
        obtain ⟨rfl, rfl⟩ : e' = e ∧ r₂ = r := read_inj he
        exact .operator hop (Nat.lt_of_not_le hlt)
          (ih.later (.binary level) (by simp) (forget_ok hright))
          (ih.later (.binaryRest min (.binary op left right)) (Nat.lt_succ_of_lt h₁)
            (forget_ok hrest))

/-- So is an operand with its signs. -/
theorem reads_of_unary {e : Expr} (ih : Sound .unary ts)
    (he : readPhrase .unary ts = .ok (e, r)) : Reads .unary ts e r := by
  replace he := exists_of_forget he
  obtain ⟨h, he⟩ := he
  cases ts with
  | nil => cases h
  | cons t ts =>
    rw [unary] at he
    split at he
    · next hop =>
      exact .operand hop (ih.inside .postfixed (by simp [Phrase.rank]) (forget_ok he))
    · next op hop =>
      obtain ⟨⟨operand, r₁, h₁⟩, hoperand, he⟩ := Except.bind_eq_ok_iff.1 he
      obtain ⟨rfl, rfl⟩ : .unary op operand = e ∧ r₁ = r := read_inj he
      exact .sign hop (ih.later .unary (by simp) (forget_ok hoperand))

/-- So is a primary expression with what is attached to it. -/
theorem reads_of_postfixed {e : Expr} (ih : Sound .postfixed ts)
    (he : readPhrase .postfixed ts = .ok (e, r)) : Reads .postfixed ts e r := by
  replace he := exists_of_forget he
  obtain ⟨h, he⟩ := he
  rw [postfixed] at he
  obtain ⟨⟨e₁, r₁, h₁⟩, hprimary, he⟩ := Except.bind_eq_ok_iff.1 he
  obtain ⟨⟨e₂, r₂, h₂⟩, hrest, he⟩ := Except.bind_eq_ok_iff.1 he
  obtain ⟨rfl, rfl⟩ : e₂ = e ∧ r₂ = r := read_inj he
  exact .postfixed (ih.inside .primary (by simp [Phrase.rank]) (forget_ok hprimary))
    (ih.later (.postfixRest e₁) h₁ (forget_ok hrest))

/-- So is what is attached. -/
theorem reads_of_postfixRest {e e' : Expr} (ih : Sound (.postfixRest e) ts)
    (he : readPhrase (.postfixRest e) ts = .ok (e', r)) : Reads (.postfixRest e) ts e' r := by
  replace he := exists_of_forget he
  obtain ⟨h, he⟩ := he
  unfold postfixRest at he
  split at he
  · next name _ ts =>
    obtain ⟨⟨e₁, r₁, h₁⟩, hrest, he⟩ := Except.bind_eq_ok_iff.1 he
    obtain ⟨rfl, rfl⟩ : e₁ = e' ∧ r₁ = r := read_inj he
    exact .member
      (ih.later (.postfixRest (.member e name)) (Nat.lt_succ_of_lt (by simp)) (forget_ok hrest))
  · cases he
  · next ts =>
    obtain ⟨⟨key, r₁, h₁⟩, hkey, he⟩ := Except.bind_eq_ok_iff.1 he
    obtain ⟨⟨r₂, h₂⟩, hclose, he⟩ := Except.bind_eq_ok_iff.1 he
    obtain ⟨⟨e₁, r₃, h₃⟩, hrest, he⟩ := Except.bind_eq_ok_iff.1 he
    obtain ⟨rfl, rfl⟩ : e₁ = e' ∧ r₃ = r := read_inj he
    have hread₁ := ih.later .expression (by simp) (forget_ok hkey)
    have hread₂ := ih.later (.postfixRest (.index e key))
      (Nat.lt_succ_of_lt (Nat.lt_trans h₂ h₁)) (forget_ok hrest)
    obtain ⟨o, rfl⟩ := exists_of_expect hclose
    exact .index hread₁ hread₂
  · next ts =>
    obtain ⟨⟨args, r₁, h₁⟩, hargs, he⟩ := Except.bind_eq_ok_iff.1 he
    obtain ⟨⟨e₁, r₂, h₂⟩, hrest, he⟩ := Except.bind_eq_ok_iff.1 he
    obtain ⟨rfl, rfl⟩ : e₁ = e' ∧ r₂ = r := read_inj he
    exact .call (ih.later (.items .rparen) (by simp) (forget_ok hargs))
      (ih.later (.postfixRest (.call e args)) (Nat.lt_succ_of_lt h₁) (forget_ok hrest))
  · next hmember hdot hbracket hparen =>
    obtain ⟨rfl, rfl⟩ : e = e' ∧ ts = r := read_inj he
    refine .bare fun t ht => ?_
    obtain ⟨ts, rfl⟩ := List.head?_eq_some_iff.1 ht
    obtain ⟨tok, o⟩ := t
    refine ⟨?_, ?_, ?_⟩
    · rintro rfl
      exact hdot o ts rfl
    · rintro rfl
      exact hbracket o ts rfl
    · rintro rfl
      exact hparen o ts rfl

/-- So are items in brackets. -/
theorem reads_of_items {close : Punct} {es : List Expr} (ih : Sound (.items close) ts)
    (he : readPhrase (.items close) ts = .ok (es, r)) : Reads (.items close) ts es r := by
  replace he := exists_of_forget he
  obtain ⟨h, he⟩ := he
  rw [items] at he
  split at he
  · next left hclose =>
    obtain ⟨r₁, h₁⟩ := left
    obtain ⟨rfl, rfl⟩ : [] = es ∧ r₁ = r := read_inj he
    obtain ⟨o, rfl⟩ := exists_of_eat? hclose
    exact .noItems
  · next hclose =>
    obtain ⟨⟨e, r₁, h₁⟩, hitem, he⟩ := Except.bind_eq_ok_iff.1 he
    have hread := ih.inside .expression (by simp [Phrase.rank]) (forget_ok hitem)
    have hnext := eat?_eq_none_iff.1 hclose
    dsimp only at he
    split at he
    · next hcomma =>
      obtain ⟨⟨r₂, h₂⟩, hlast, he⟩ := Except.bind_eq_ok_iff.1 he
      obtain ⟨rfl, rfl⟩ : [e] = es ∧ r₂ = r := read_inj he
      obtain ⟨o, rfl⟩ := exists_of_expect hlast
      have hne : close ≠ .comma := by
        rintro rfl
        exact next_cons.1 (eat?_eq_none_iff.1 hcomma) rfl
      cases ts with
      | nil => cases h₁
      | cons t ts => exact .lastItem (next_cons.1 hnext) hne hread
    · next r₂ h₂ hcomma =>
      obtain ⟨⟨es', r₃, h₃⟩, hmore, he⟩ := Except.bind_eq_ok_iff.1 he
      obtain ⟨rfl, rfl⟩ : e :: es' = es ∧ r₃ = r := read_inj he
      have hrest := ih.later (.items close) (Nat.lt_trans h₂ h₁) (forget_ok hmore)
      obtain ⟨o, rfl⟩ := exists_of_eat? hcomma
      cases ts with
      | nil => cases h₁
      | cons t ts => exact .item (next_cons.1 hnext) hread hrest

/-- So are entries in braces. -/
theorem reads_of_entries {es : List (String × Expr)} (ih : Sound .entries ts)
    (he : readPhrase .entries ts = .ok (es, r)) : Reads .entries ts es r := by
  replace he := exists_of_forget he
  obtain ⟨h, he⟩ := he
  rw [entries] at he
  split at he
  · next left hclose =>
    obtain ⟨r₁, h₁⟩ := left
    obtain ⟨rfl, rfl⟩ : [] = es ∧ r₁ = r := read_inj he
    obtain ⟨o, rfl⟩ := exists_of_eat? hclose
    exact .noEntries
  · next hclose =>
    obtain ⟨⟨e, r₁, h₁⟩, hentry, he⟩ := Except.bind_eq_ok_iff.1 he
    have hread := ih.inside .entry (by simp [Phrase.rank]) (forget_ok hentry)
    have hnext := eat?_eq_none_iff.1 hclose
    dsimp only at he
    split at he
    · next hcomma =>
      obtain ⟨⟨r₂, h₂⟩, hlast, he⟩ := Except.bind_eq_ok_iff.1 he
      obtain ⟨rfl, rfl⟩ : [e] = es ∧ r₂ = r := read_inj he
      obtain ⟨o, rfl⟩ := exists_of_expect hlast
      cases ts with
      | nil => cases h₁
      | cons t ts => exact .lastEntry (next_cons.1 hnext) hread
    · next r₂ h₂ hcomma =>
      obtain ⟨⟨es', r₃, h₃⟩, hmore, he⟩ := Except.bind_eq_ok_iff.1 he
      obtain ⟨rfl, rfl⟩ : e :: es' = es ∧ r₃ = r := read_inj he
      have hrest := ih.later .entries (Nat.lt_trans h₂ h₁) (forget_ok hmore)
      obtain ⟨o, rfl⟩ := exists_of_eat? hcomma
      cases ts with
      | nil => cases h₁
      | cons t ts => exact .entry (next_cons.1 hnext) hread hrest

/-- So is an entry. -/
theorem reads_of_entry {e : String × Expr} (ih : Sound .entry ts)
    (he : readPhrase .entry ts = .ok (e, r)) : Reads .entry ts e r := by
  replace he := exists_of_forget he
  obtain ⟨h, he⟩ := he
  cases ts with
  | nil => cases h
  | cons t ts =>
    rw [entry] at he
    split at he
    · cases he
    · next key hkey =>
      split at he
      · next hcolon =>
        obtain ⟨rfl, rfl⟩ : (key, .ident key) = e ∧ ts = r := read_inj he
        exact .short hkey (eat?_eq_none_iff.1 hcolon)
      · next r₁ h₁ hcolon =>
        obtain ⟨⟨value, r₂, h₂⟩, hvalue, he⟩ := Except.bind_eq_ok_iff.1 he
        obtain ⟨rfl, rfl⟩ : (key, value) = e ∧ r₂ = r := read_inj he
        have hread := ih.later .expression (Nat.lt_succ_of_lt h₁) (forget_ok hvalue)
        obtain ⟨o, rfl⟩ := exists_of_eat? hcolon
        exact .full hkey hread

/-- So is a primary expression. -/
theorem reads_of_primary {e : Expr} (ih : Sound .primary ts)
    (he : readPhrase .primary ts = .ok (e, r)) : Reads .primary ts e r := by
  replace he := exists_of_forget he
  obtain ⟨h, he⟩ := he
  unfold primary at he
  split at he
  · cases he
  · next x o ts =>
    obtain ⟨rfl, rfl⟩ : .literal (ofBinary64 x) = e ∧ ts = r := read_inj he
    exact .number
  · next s o ts =>
    obtain ⟨rfl, rfl⟩ : .literal (.string s) = e ∧ ts = r := read_inj he
    exact .string
  · next name o ts =>
    split at he
    · next hname =>
      obtain ⟨rfl, rfl⟩ : .ident name = e ∧ ts = r := read_inj he
      exact .ident hname
    · next k hk =>
      split at he
      · next value hvalue =>
        obtain ⟨rfl, rfl⟩ : .literal value = e ∧ ts = r := read_inj he
        exact .constant hk hvalue
      · cases he
  · next o ts =>
    obtain ⟨⟨e', r₁, h₁⟩, hinner, he⟩ := Except.bind_eq_ok_iff.1 he
    obtain ⟨⟨r₂, h₂⟩, hclose, he⟩ := Except.bind_eq_ok_iff.1 he
    obtain ⟨rfl, rfl⟩ : e' = e ∧ r₂ = r := read_inj he
    have hread := ih.later .expression (by simp) (forget_ok hinner)
    obtain ⟨o', rfl⟩ := exists_of_expect hclose
    exact .parens hread
  · next o ts =>
    obtain ⟨⟨es, r₁, h₁⟩, hitems, he⟩ := Except.bind_eq_ok_iff.1 he
    obtain ⟨rfl, rfl⟩ : .array es = e ∧ r₁ = r := read_inj he
    exact .array (ih.later (.items .rbracket) (by simp) (forget_ok hitems))
  · next o ts =>
    obtain ⟨⟨es, r₁, h₁⟩, hentries, he⟩ := Except.bind_eq_ok_iff.1 he
    obtain ⟨rfl, rfl⟩ : .object es = e ∧ r₁ = r := read_inj he
    exact .object (ih.later .entries (by simp) (forget_ok hentries))
  · cases he

end

/-- What the parser reads follows the grammar. -/
theorem reads_of_readPhrase (p : Phrase) (ts : List Token) {v : p.Value} {r : List Token}
    (h : readPhrase p ts = .ok (v, r)) : Reads p ts v r := by
  have ih : Sound p ts := ⟨fun q _ _ hlt hq => reads_of_readPhrase q ts hq,
    fun q ts' _ _ hlt hq => reads_of_readPhrase q ts' hq⟩
  cases p with
  | expression => exact reads_of_expression ih h
  | binary min => exact reads_of_binary ih h
  | binaryRest min left => exact reads_of_binaryRest ih h
  | unary => exact reads_of_unary ih h
  | postfixed => exact reads_of_postfixed ih h
  | postfixRest e => exact reads_of_postfixRest ih h
  | items close => exact reads_of_items ih h
  | entries => exact reads_of_entries ih h
  | entry => exact reads_of_entry ih h
  | primary => exact reads_of_primary ih h
termination_by (ts.length, p.rank)

/-- What follows the grammar is read. -/
theorem readPhrase_of_reads {p : Phrase} {ts r : List Token} {v : p.Value} (h : Reads p ts v r) :
    readPhrase p ts = .ok (v, r) := by
  induction h with
  | plain hcondition hnext ih =>
    obtain ⟨h, hread⟩ := exists_of_forget ih
    rw [readPhrase, expression, hread, Except.ok_bind]
    dsimp only
    rw [eat?_eq_none_iff.2 hnext]
    rfl
  | conditional hcondition hyes hno ih ih₁ ih₂ =>
    obtain ⟨h, hread⟩ := exists_of_forget ih
    obtain ⟨h₁, hread₁⟩ := exists_of_forget ih₁
    obtain ⟨h₂, hread₂⟩ := exists_of_forget ih₂
    rw [readPhrase, expression, hread, Except.ok_bind]
    dsimp only
    rw [eat?_punct, Left.tail]
    dsimp only
    rw [hread₁, Except.ok_bind]
    dsimp only
    rw [expect_punct, Except.ok_bind, Left.tail]
    dsimp only
    rw [hread₂]
    rfl
  | binary hleft hrest ih ih₁ =>
    obtain ⟨h, hread⟩ := exists_of_forget ih
    obtain ⟨h₁, hread₁⟩ := exists_of_forget ih₁
    rw [readPhrase, binary, hread, Except.ok_bind]
    dsimp only
    rw [hread₁]
    rfl
  | @stop r left min hnext =>
    cases r with
    | nil =>
      rw [readPhrase, binaryRest]
      rfl
    | cons t r =>
      rw [readPhrase, binaryRest]
      split
      · rfl
      · next op level hop =>
        rw [if_pos (next_cons.1 hnext op level hop)]
        rfl
  | operator hop hlt hright hrest ih ih₁ =>
    obtain ⟨h, hread⟩ := exists_of_forget ih
    obtain ⟨h₁, hread₁⟩ := exists_of_forget ih₁
    rw [readPhrase, binaryRest, hop]
    dsimp only
    rw [if_neg (Nat.not_le_of_lt hlt), hread, Except.ok_bind]
    dsimp only
    rw [hread₁]
    rfl
  | operand hop hoperand ih =>
    obtain ⟨h, hread⟩ := exists_of_forget ih
    rw [readPhrase, unary, hop]
    dsimp only
    rw [hread]
    rfl
  | sign hop hoperand ih =>
    obtain ⟨h, hread⟩ := exists_of_forget ih
    rw [readPhrase, unary, hop]
    dsimp only
    rw [hread]
    rfl
  | postfixed hprimary hrest ih ih₁ =>
    obtain ⟨h, hread⟩ := exists_of_forget ih
    obtain ⟨h₁, hread₁⟩ := exists_of_forget ih₁
    rw [readPhrase, postfixed, hread, Except.ok_bind]
    dsimp only
    rw [hread₁]
    rfl
  | @bare r e hnext =>
    rw [readPhrase]
    unfold postfixRest
    split
    · exact absurd rfl (next_cons.1 hnext).1
    · exact absurd rfl (next_cons.1 hnext).1
    · exact absurd rfl (next_cons.1 hnext).2.1
    · exact absurd rfl (next_cons.1 hnext).2.2
    · rfl
  | member hrest ih =>
    obtain ⟨h, hread⟩ := exists_of_forget ih
    rw [readPhrase, postfixRest, hread]
    rfl
  | index hkey hrest ih ih₁ =>
    obtain ⟨h, hread⟩ := exists_of_forget ih
    obtain ⟨h₁, hread₁⟩ := exists_of_forget ih₁
    rw [readPhrase, postfixRest, hread, Except.ok_bind]
    dsimp only
    rw [expect_punct, Except.ok_bind, Left.tail]
    dsimp only
    rw [hread₁]
    rfl
  | call hargs hrest ih ih₁ =>
    obtain ⟨h, hread⟩ := exists_of_forget ih
    obtain ⟨h₁, hread₁⟩ := exists_of_forget ih₁
    rw [readPhrase, postfixRest, hread, Except.ok_bind]
    dsimp only
    rw [hread₁]
    rfl
  | noItems =>
    rw [readPhrase, items, eat?_punct]
    rfl
  | lastItem hclose hcomma hitem ih =>
    obtain ⟨h, hread⟩ := exists_of_forget ih
    rw [readPhrase, items, eat?_eq_none_iff.2 (next_cons.2 hclose)]
    dsimp only
    rw [hread, Except.ok_bind]
    dsimp only
    rw [eat?_eq_none_iff.2 (next_cons.2 fun h => hcomma (Tok.punct.inj h))]
    dsimp only
    rw [expect_punct]
    rfl
  | item hclose hitem hrest ih ih₁ =>
    obtain ⟨h, hread⟩ := exists_of_forget ih
    obtain ⟨h₁, hread₁⟩ := exists_of_forget ih₁
    rw [readPhrase, items, eat?_eq_none_iff.2 (next_cons.2 hclose)]
    dsimp only
    rw [hread, Except.ok_bind]
    dsimp only
    rw [eat?_punct, Left.tail]
    dsimp only
    rw [hread₁]
    rfl
  | noEntries =>
    rw [readPhrase, entries, eat?_punct]
    rfl
  | lastEntry hclose hentry ih =>
    obtain ⟨h, hread⟩ := exists_of_forget ih
    rw [readPhrase, entries, eat?_eq_none_iff.2 (next_cons.2 hclose)]
    dsimp only
    rw [hread, Except.ok_bind]
    dsimp only
    rw [eat?_eq_none_iff.2 (next_cons.2 (by simp))]
    dsimp only
    rw [expect_punct]
    rfl
  | entry hclose hentry hrest ih ih₁ =>
    obtain ⟨h, hread⟩ := exists_of_forget ih
    obtain ⟨h₁, hread₁⟩ := exists_of_forget ih₁
    rw [readPhrase, entries, eat?_eq_none_iff.2 (next_cons.2 hclose)]
    dsimp only
    rw [hread, Except.ok_bind]
    dsimp only
    rw [eat?_punct, Left.tail]
    dsimp only
    rw [hread₁]
    rfl
  | short hkey hnext =>
    rw [readPhrase, Parse.entry, hkey]
    dsimp only
    rw [eat?_eq_none_iff.2 hnext]
    rfl
  | full hkey hvalue ih =>
    obtain ⟨h, hread⟩ := exists_of_forget ih
    rw [readPhrase, Parse.entry, hkey]
    dsimp only
    rw [eat?_punct, Left.tail]
    dsimp only
    rw [hread]
    rfl
  | number => rw [readPhrase, primary]; rfl
  | string => rw [readPhrase, primary]; rfl
  | ident hname =>
    rw [readPhrase, primary, hname]
    rfl
  | constant hk hvalue =>
    rw [readPhrase, primary, hk]
    dsimp only
    rw [hvalue]
    rfl
  | parens hinner ih =>
    obtain ⟨h, hread⟩ := exists_of_forget ih
    rw [readPhrase, primary, hread, Except.ok_bind]
    dsimp only
    rw [expect_punct]
    rfl
  | array hitems ih =>
    obtain ⟨h, hread⟩ := exists_of_forget ih
    rw [readPhrase, primary, hread]
    rfl
  | object hentries ih =>
    obtain ⟨h, hread⟩ := exists_of_forget ih
    rw [readPhrase, primary, hread]
    rfl

/-- The parser reads the phrases of the grammar. -/
theorem readPhrase_eq_ok_iff {p : Phrase} {ts r : List Token} {v : p.Value} :
    readPhrase p ts = .ok (v, r) ↔ Reads p ts v r :=
  ⟨reads_of_readPhrase p ts, readPhrase_of_reads⟩

/-- What the parser reads as an expression is one of the grammar. -/
theorem reads_of_expression_eq_ok {ts r : List Token} {e : Expr} {h : r.length < ts.length}
    (he : expression ts = .ok (e, ⟨r, h⟩)) : Reads .expression ts e r :=
  reads_of_readPhrase .expression ts (forget_ok he)

/-- The parser reads every expression of the grammar. -/
theorem exists_of_reads_expression {ts r : List Token} {e : Expr} (h : Reads .expression ts e r) :
    ∃ hlt, expression ts = .ok (e, ⟨r, hlt⟩) :=
  exists_of_forget (readPhrase_of_reads h)

/-- Tokens are one expression if nothing follows it. -/
theorem expressionOnly_eq_ok_iff {ts : List Token} {e : Expr} :
    expressionOnly ts = .ok e ↔ Reads .expression ts e [] := by
  constructor
  · intro he
    obtain ⟨⟨e', r, h⟩, hread, he⟩ := Except.bind_eq_ok_iff.1 he
    dsimp only at he
    split at he
    · next hempty =>
      obtain rfl : e' = e := Except.ok.inj he
      obtain rfl : r = [] := List.isEmpty_iff.1 hempty
      exact reads_of_expression_eq_ok hread
    · cases he
  · intro h
    obtain ⟨hlt, hread⟩ := exists_of_reads_expression h
    rw [expressionOnly, hread]
    rfl

end Stencil.Script.Parse
