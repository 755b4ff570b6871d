import Stencil.Proofs.Script.Phrase

/-!
# Stencil.Proofs.Script.Cursor

The parser of expressions as a run over positions. A run has the tokens of a template, which
do not change, and a position in them, which it moves: past a token, and also past the end
or back by one where a token turns out to be missing or of a wrong kind. Nothing keeps it from
standing still; only the depth of its calls is limited, and every turn of a loop counts as a
call (`follow`).

If the limit is above six times the number of tokens left and the rank of the phrase
(`Phrase.rank`), it is not reached, and the run ends where the parser ends that takes tokens off
a list: `agrees_follow`. The induction is on the limit. What makes it work is that a call that
is made before any token is taken is one of a lower rank, and that every other one is made
further on.
-/

namespace Stencil.Script.Parse

/-! ## runs -/

/-- How a run ends. -/
inductive Ran (α : Type) where
  /-- Its calls went deeper than the limit. -/
  | cut
  /-- A mistake was found when the run stood at `pos`. -/
  | fails (cause : SyntaxCause) (pos : Nat)
  /-- A value was read, and the run stands at `pos`. -/
  | gives (value : α) (pos : Nat)

/-- A run goes on after a value. -/
def Ran.andThen {α β : Type} : Ran α → (α → Nat → Ran β) → Ran β
  | .cut, _ => .cut
  | .fails cause pos, _ => .fails cause pos
  | .gives value pos, f => f value pos

section
variable (ts : List Token)

/-- The token at a position. -/
def tokAt? (pos : Nat) : Option Tok := ts[pos]?.map Token.tok

/-- Whether the punctuation mark `p` stands at a position. -/
def standsAt (p : Punct) (pos : Nat) : Bool := tokAt? ts pos = some (.punct p)

/-- Moves past a punctuation mark that has to stand at a position. -/
def expectAt (p : Punct) (pos : Nat) : Ran Unit :=
  if standsAt ts p pos then .gives () (pos + 1) else .fails (.expected p) pos

/-- Reads a phrase from a position on, with at most `limit` calls inside each other. -/
def follow : (limit : Nat) → (p : Phrase) → (pos : Nat) → Ran p.Value
  | 0, _, _ => .cut
  | k + 1, .expression, pos =>
    (follow k (.binary 0) pos).andThen fun condition pos =>
      if standsAt ts .question pos then
        (follow k .expression (pos + 1)).andThen fun yes pos =>
          (expectAt ts .colon pos).andThen fun _ pos =>
            (follow k .expression pos).andThen fun no pos =>
              .gives (.conditional condition yes no) pos
      else .gives condition pos
  | k + 1, .binary min, pos =>
    (follow k .unary pos).andThen fun left pos => follow k (.binaryRest min left) pos
  | k + 1, .binaryRest min left, pos =>
    match (tokAt? ts pos).bind binaryOp? with
    | none => .gives left pos
    | some (op, level) =>
      if level ≤ min then .gives left pos
      else
        (follow k (.binary level) (pos + 1)).andThen fun right pos =>
          follow k (.binaryRest min (.binary op left right)) pos
  | k + 1, .unary, pos =>
    match (tokAt? ts pos).bind unaryOp? with
    | none => follow k .postfixed pos
    | some op => (follow k .unary (pos + 1)).andThen fun e pos => .gives (.unary op e) pos
  | k + 1, .postfixed, pos =>
    (follow k .primary pos).andThen fun e pos => follow k (.postfixRest e) pos
  | k + 1, .postfixRest e, pos =>
    if standsAt ts .dot pos then
      match tokAt? ts (pos + 1) with
      | some (.ident name) => follow k (.postfixRest (.member e name)) (pos + 2)
      | _ => .fails .expectedProperty (pos + 2)
    else if standsAt ts .lbracket pos then
      (follow k .expression (pos + 1)).andThen fun key pos =>
        (expectAt ts .rbracket pos).andThen fun _ pos => follow k (.postfixRest (.index e key)) pos
    else if standsAt ts .lparen pos then
      (follow k (.items .rparen) (pos + 1)).andThen fun args pos =>
        follow k (.postfixRest (.call e args)) pos
    else .gives e pos
  | k + 1, .items close, pos =>
    if standsAt ts close pos then .gives [] (pos + 1)
    else
      (follow k .expression pos).andThen fun e pos =>
        if standsAt ts .comma pos then
          (follow k (.items close) (pos + 1)).andThen fun es pos => .gives (e :: es) pos
        else (expectAt ts close pos).andThen fun _ pos => .gives [e] pos
  | k + 1, .entries, pos =>
    if standsAt ts .rbrace pos then .gives [] (pos + 1)
    else
      (follow k .entry pos).andThen fun entry pos =>
        if standsAt ts .comma pos then
          (follow k .entries (pos + 1)).andThen fun entries pos => .gives (entry :: entries) pos
        else (expectAt ts .rbrace pos).andThen fun _ pos => .gives [entry] pos
  | k + 1, .entry, pos =>
    match (tokAt? ts pos).bind entryKey? with
    -- the token has been taken, and the run steps back
    | none => .fails .expectedProperty (pos + 1 - 1)
    | some key =>
      if standsAt ts .colon (pos + 1) then
        (follow k .expression (pos + 2)).andThen fun value pos => .gives (key, value) pos
      else .gives (key, .ident key) (pos + 1)
  | k + 1, .primary, pos =>
    match tokAt? ts pos with
    | none => .fails .endOfExpression (pos + 1 - 1)
    | some (.number x) => .gives (.literal (ofBinary64 x)) (pos + 1)
    | some (.string s) => .gives (.literal (.string s)) (pos + 1)
    | some (.ident name) =>
      match Keyword.ofName? name with
      | none => .gives (.ident name) (pos + 1)
      | some keyword =>
        match constant? keyword with
        | some value => .gives (.literal value) (pos + 1)
        | none => .fails (.unexpectedKeyword keyword) (pos + 1 - 1)
    | some (.punct .lparen) =>
      (follow k .expression (pos + 1)).andThen fun e pos =>
        (expectAt ts .rparen pos).andThen fun _ pos => .gives e pos
    | some (.punct .lbracket) =>
      (follow k (.items .rbracket) (pos + 1)).andThen fun es pos => .gives (.array es) pos
    | some (.punct .lbrace) =>
      (follow k .entries (pos + 1)).andThen fun es pos => .gives (.object es) pos
    | some _ => .fails .unexpectedToken (pos + 1 - 1)

/-- Without calls a run is cut off at once. -/
@[simp] theorem follow_zero (p : Phrase) (pos : Nat) : follow ts 0 p pos = .cut := by
  rw [follow]

end

/-! ## agreement with the parser -/

/-- A run over the positions of `ts` ends as the parser does that takes tokens off a list: the
tokens that are left are those from the position of the run on. -/
inductive Agrees {α : Type} (ts : List Token) :
    Ran α → Except ParseError (α × List Token) → Prop where
  | fails {cause : SyntaxCause} {pos : Nat} {r : List Token} :
    r = ts.drop pos → Agrees ts (.fails cause pos) (.error ⟨cause, r⟩)
  | gives {value : α} {pos : Nat} {r : List Token} :
    pos ≤ ts.length → r = ts.drop pos → Agrees ts (.gives value pos) (.ok (value, r))

section
variable {ts : List Token} {pos : Nat}

/-- The token at a position, and the tokens from there on. -/
theorem drop_eq_nil_or_cons (ts : List Token) (pos : Nat) :
    (ts.drop pos = [] ∧ tokAt? ts pos = none) ∨
      ∃ t, ts.drop pos = t :: ts.drop (pos + 1) ∧ tokAt? ts pos = some t.tok ∧ pos < ts.length := by
  by_cases hpos : pos < ts.length
  · exact .inr ⟨ts[pos], List.drop_eq_getElem_cons hpos, by
      rw [tokAt?, List.getElem?_eq_getElem hpos, Option.map_some], hpos⟩
  · have hle := Nat.not_lt.1 hpos
    exact .inl ⟨List.drop_eq_nil_of_le hle, by
      rw [tokAt?, List.getElem?_eq_none hle, Option.map_none]⟩

/-- A mark stands at a position just if the token there is the mark. -/
theorem standsAt_iff {p : Punct} :
    standsAt ts p pos = true ↔ tokAt? ts pos = some (.punct p) := decide_eq_true_iff

/-- A run moves past a mark just where the parser takes it. -/
theorem eat?_drop (ts : List Token) (p : Punct) (pos : Nat) :
    (standsAt ts p pos = false ∧ eat? p (ts.drop pos) = none) ∨
      standsAt ts p pos = true ∧ pos < ts.length ∧
        ∃ hlt, eat? p (ts.drop pos) = some ⟨ts.drop (pos + 1), hlt⟩ := by
  have heat : ∀ {cs r : List Token} {o : Nat}, cs = ⟨.punct p, o⟩ :: r →
      ∃ hlt, eat? p cs = some ⟨r, hlt⟩ := by
    rintro cs r o rfl
    exact ⟨_, eat?_punct p o r⟩
  obtain ⟨hdrop, hnone⟩ | ⟨⟨tok, o⟩, hdrop, htok, hpos⟩ := drop_eq_nil_or_cons ts pos
  · left
    rw [hdrop]
    exact ⟨by simp [standsAt, hnone], rfl⟩
  · by_cases hp : tok = .punct p
    · subst hp
      exact .inr ⟨standsAt_iff.2 htok, hpos, heat hdrop⟩
    · refine .inl ⟨by simp [standsAt, htok, hp], eat?_eq_none_iff.2 ?_⟩
      rw [hdrop]
      exact next_cons.2 hp

end

namespace Agrees

variable {α β γ : Type} {ts : List Token} {pos : Nat} {Q : List Token → Prop}

/-- What is read after a value agrees, so the whole does. -/
theorem andThen {x : Ran α} {m : Parsed α (ts.drop pos)} {f : α → Nat → Ran β}
    {g : α × Left (ts.drop pos) → Except ParseError γ} {outcome : γ → β × List Token}
    (h : Agrees ts x (m.map forget))
    (hf : ∀ v pos' hlt, pos < pos' → pos' ≤ ts.length →
      Agrees ts (f v pos') ((g (v, ⟨ts.drop pos', hlt⟩)).map outcome)) :
    Agrees ts (x.andThen f) ((m >>= g).map outcome) := by
  generalize hread : m.map forget = read at h
  cases h with
  | @fails cause pos' r hr =>
    rw [Except.map_eq_error_iff.1 hread]
    exact .fails hr
  | @gives v pos' r hle hr =>
    subst hr
    obtain ⟨hlt, rfl⟩ := exists_of_forget hread
    have hmoved : pos < pos' := by
      have hlength := hlt
      simp only [List.length_drop] at hlength
      omega
    exact hf v pos' hlt hmoved hle

/-- What is read last is the whole. -/
theorem last {P : List Token → Prop} {x : Ran α} {m : Except ParseError (α × Subtype P)}
    {g : α × Subtype P → Except ParseError (α × Subtype Q)} (h : Agrees ts x (m.map forget))
    (hg : ∀ a, (g a).map forget = .ok (forget a)) : Agrees ts x ((m >>= g).map forget) := by
  cases m with
  | error e => exact h
  | ok a =>
    rw [Except.ok_bind, hg]
    exact h

/-- A mark that has to stand there is found by both or missing in both. -/
theorem expect {p : Punct} {f : Unit → Nat → Ran β}
    {g : Left (ts.drop pos) → Except ParseError (β × Subtype Q)}
    (hf : ∀ hlt, pos < ts.length →
      Agrees ts (f () (pos + 1)) ((g ⟨ts.drop (pos + 1), hlt⟩).map forget)) :
    Agrees ts ((expectAt ts p pos).andThen f)
      ((Parse.expect p (ts.drop pos) >>= g).map forget) := by
  rw [expectAt, Parse.expect]
  obtain ⟨hat, heat⟩ | ⟨hat, hpos, hlt, heat⟩ := eat?_drop ts p pos
  · rw [hat, heat]
    exact .fails rfl
  · rw [hat, heat]
    exact hf hlt hpos

/-- What is made of a value changes nothing. -/
theorem map {x : Ran α} {read : Except ParseError (α × List Token)} (h : Agrees ts x read)
    (f : α → β) : Agrees ts (x.andThen fun v pos => .gives (f v) pos)
      (read.map fun a => (f a.1, a.2)) := by
  cases h with
  | fails hr => exact .fails hr
  | gives hle hr => exact .gives hle hr

end Agrees

/-! ## phrases -/

/-- The runs with the limit `k` agree that have enough calls left. -/
def AgreesBelow (ts : List Token) (k : Nat) : Prop :=
  ∀ (p : Phrase) (pos : Nat), pos ≤ ts.length → 6 * (ts.length - pos) + p.rank < k →
    Agrees ts (follow ts k p pos) (readPhrase p (ts.drop pos))

section
variable {ts : List Token} {k pos : Nat}

/-- One more call reads an expression, and its parts with fewer calls left. -/
theorem agrees_expression (ih : AgreesBelow ts k) (hpos : pos ≤ ts.length)
    (hcost : 6 * (ts.length - pos) + 4 ≤ k) :
    Agrees ts (follow ts (k + 1) .expression pos) (readPhrase .expression (ts.drop pos)) := by
  rw [follow, readPhrase, expression]
  refine (ih (.binary 0) pos hpos (by simp only [Phrase.rank]; omega)).andThen
    fun condition pos₁ hlt hmoved hpos₁ => ?_
  dsimp only
  obtain ⟨hat, heat⟩ | ⟨hat, hnext, hlt₁, heat⟩ := eat?_drop ts .question pos₁
  · rw [hat, heat]
    exact .gives hpos₁ rfl
  · rw [hat, heat]
    refine (ih .expression (pos₁ + 1) hnext (by simp only [Phrase.rank]; omega)).andThen
      fun yes pos₂ hlt₂ hmoved₂ hpos₂ => ?_
    refine .expect fun hlt₃ hnext₂ => ?_
    refine (ih .expression (pos₂ + 1) hnext₂ (by simp only [Phrase.rank]; omega)).andThen
      fun no pos₃ hlt₄ hmoved₃ hpos₃ => ?_
    exact .gives hpos₃ rfl

/-- One more call reads what binary operators connect. -/
theorem agrees_binary {min : Nat} (ih : AgreesBelow ts k) (hpos : pos ≤ ts.length)
    (hcost : 6 * (ts.length - pos) + 3 ≤ k) :
    Agrees ts (follow ts (k + 1) (.binary min) pos) (readPhrase (.binary min) (ts.drop pos)) := by
  rw [follow, readPhrase, binary]
  refine (ih .unary pos hpos (by simp only [Phrase.rank]; omega)).andThen
    fun left pos₁ hlt hmoved hpos₁ => ?_
  exact (ih (.binaryRest min left) pos₁ hpos₁ (by simp only [Phrase.rank]; omega)).last
    fun _ => rfl

/-- One more call goes on with an operand, a turn of the loop of the parser. -/
theorem agrees_binaryRest {min : Nat} {left : Expr} (ih : AgreesBelow ts k)
    (hpos : pos ≤ ts.length) (hcost : 6 * (ts.length - pos) ≤ k) :
    Agrees ts (follow ts (k + 1) (.binaryRest min left) pos)
      (readPhrase (.binaryRest min left) (ts.drop pos)) := by
  rw [follow]
  obtain ⟨hdrop, htok⟩ | ⟨t, hdrop, htok, hnext⟩ := drop_eq_nil_or_cons ts pos
  · rw [htok, hdrop, readPhrase, binaryRest]
    exact .gives hpos hdrop.symm
  · rw [htok, hdrop, readPhrase, binaryRest, Option.bind_some]
    cases hop : binaryOp? t.tok with
    | none => exact .gives hpos hdrop.symm
    | some op =>
      obtain ⟨op, level⟩ := op
      dsimp only
      by_cases hle : level ≤ min
      · rw [if_pos hle, if_pos hle]
        exact .gives hpos hdrop.symm
      · rw [if_neg hle, if_neg hle]
        refine (ih (.binary level) (pos + 1) hnext (by simp only [Phrase.rank]; omega)).andThen
          fun right pos₁ hlt hmoved hpos₁ => ?_
        exact (ih (.binaryRest min (.binary op left right)) pos₁ hpos₁
          (by simp only [Phrase.rank]; omega)).last fun _ => rfl

/-- One more call reads an operand with its signs. -/
theorem agrees_unary (ih : AgreesBelow ts k) (hpos : pos ≤ ts.length)
    (hcost : 6 * (ts.length - pos) + 2 ≤ k) :
    Agrees ts (follow ts (k + 1) .unary pos) (readPhrase .unary (ts.drop pos)) := by
  have hoperand := ih .postfixed pos hpos (by simp only [Phrase.rank]; omega)
  rw [follow]
  obtain ⟨hdrop, htok⟩ | ⟨t, hdrop, htok, hnext⟩ := drop_eq_nil_or_cons ts pos
  · rw [hdrop] at hoperand
    rw [htok, hdrop, readPhrase, unary]
    exact hoperand
  · rw [hdrop] at hoperand
    rw [htok, hdrop, readPhrase, unary, Option.bind_some]
    cases hop : unaryOp? t.tok with
    | none => exact hoperand
    | some op =>
      refine (ih .unary (pos + 1) hnext (by simp only [Phrase.rank]; omega)).andThen
        fun e pos₁ hlt hmoved hpos₁ => ?_
      exact .gives hpos₁ rfl

/-- One more call reads a primary expression with what is attached to it. -/
theorem agrees_postfixed (ih : AgreesBelow ts k) (hpos : pos ≤ ts.length)
    (hcost : 6 * (ts.length - pos) + 1 ≤ k) :
    Agrees ts (follow ts (k + 1) .postfixed pos) (readPhrase .postfixed (ts.drop pos)) := by
  rw [follow, readPhrase, postfixed]
  refine (ih .primary pos hpos (by simp only [Phrase.rank]; omega)).andThen
    fun e pos₁ hlt hmoved hpos₁ => ?_
  exact (ih (.postfixRest e) pos₁ hpos₁ (by simp only [Phrase.rank]; omega)).last
    fun _ => rfl

/-- Things with commas between them, after the mark that closes them was not found. -/
theorem agrees_separated {α : Type} {close : Punct} {x : Ran α} {others : Nat → Ran (List α)}
    {m : Parsed α (ts.drop pos)} {readOthers : (r : List Token) → Parsed (List α) r}
    (h : Agrees ts x (m.map forget))
    (hothers : ∀ pos', pos < pos' → pos' ≤ ts.length →
      Agrees ts (others pos') ((readOthers (ts.drop pos')).map forget)) :
    Agrees ts
      (x.andThen fun a pos =>
        if standsAt ts .comma pos then
          (others (pos + 1)).andThen fun as pos => .gives (a :: as) pos
        else (expectAt ts close pos).andThen fun _ pos => .gives [a] pos)
      ((do
        let (a, ⟨r, h⟩) ← m
        match eat? .comma r with
        | none =>
          let ⟨r₁, h₁⟩ ← expect close r
          return ([a], .andThen ⟨r, h⟩ ⟨r₁, h₁⟩)
        | some ⟨r₁, h₁⟩ =>
          let (as, ⟨r₂, h₂⟩) ← readOthers r₁
          return (a :: as, .andThen ⟨r, h⟩ (.andThen ⟨r₁, h₁⟩ ⟨r₂, h₂⟩)) :
            Parsed (List α) (ts.drop pos)).map forget) := by
  refine h.andThen fun a pos₁ hlt hmoved hpos₁ => ?_
  dsimp only
  obtain ⟨hat, heat⟩ | ⟨hat, hnext, hlt₁, heat⟩ := eat?_drop ts .comma pos₁
  · rw [hat, heat]
    exact .expect fun hlt₂ hnext => .gives hnext rfl
  · rw [hat, heat]
    refine (hothers (pos₁ + 1) (by omega) hnext).andThen fun as pos₂ hlt₂ hmoved₂ hpos₂ => ?_
    exact .gives hpos₂ rfl

/-- One more call reads items up to the mark that closes them. -/
theorem agrees_items {close : Punct} (ih : AgreesBelow ts k) (hpos : pos ≤ ts.length)
    (hcost : 6 * (ts.length - pos) + 5 ≤ k) :
    Agrees ts (follow ts (k + 1) (.items close) pos) (readPhrase (.items close) (ts.drop pos)) := by
  rw [follow, readPhrase, items]
  obtain ⟨hat, heat⟩ | ⟨hat, hnext, hlt, heat⟩ := eat?_drop ts close pos
  · have hitem := ih .expression pos hpos (by simp only [Phrase.rank]; omega)
    rw [hat, heat]
    exact agrees_separated hitem fun pos₁ hmoved hpos₁ =>
      ih (.items close) pos₁ hpos₁ (by simp only [Phrase.rank]; omega)
  · rw [hat, heat]
    exact .gives hnext rfl

/-- One more call reads the entries of an object. -/
theorem agrees_entries (ih : AgreesBelow ts k) (hpos : pos ≤ ts.length)
    (hcost : 6 * (ts.length - pos) + 1 ≤ k) :
    Agrees ts (follow ts (k + 1) .entries pos) (readPhrase .entries (ts.drop pos)) := by
  rw [follow, readPhrase, entries]
  obtain ⟨hat, heat⟩ | ⟨hat, hnext, hlt, heat⟩ := eat?_drop ts .rbrace pos
  · have hentry := ih .entry pos hpos (by simp only [Phrase.rank]; omega)
    rw [hat, heat]
    exact agrees_separated hentry fun pos₁ hmoved hpos₁ =>
      ih .entries pos₁ hpos₁ (by simp only [Phrase.rank]; omega)
  · rw [hat, heat]
    exact .gives hnext rfl

/-- One more call reads an entry, and steps back from a token that is no key. -/
theorem agrees_entry (ih : AgreesBelow ts k) (hcost : 6 * (ts.length - pos) ≤ k) :
    Agrees ts (follow ts (k + 1) .entry pos) (readPhrase .entry (ts.drop pos)) := by
  rw [follow]
  obtain ⟨hdrop, htok⟩ | ⟨t, hdrop, htok, hnext⟩ := drop_eq_nil_or_cons ts pos
  · rw [htok, hdrop, readPhrase, entry]
    exact .fails hdrop.symm
  · rw [htok, hdrop, readPhrase, entry, Option.bind_some]
    cases hkey : entryKey? t.tok with
    | none => exact .fails hdrop.symm
    | some key =>
      dsimp only
      obtain ⟨hat, heat⟩ | ⟨hat, hnext₁, hlt, heat⟩ := eat?_drop ts .colon (pos + 1)
      · rw [hat, heat]
        exact .gives hnext rfl
      · rw [hat, heat]
        refine (ih .expression (pos + 2) hnext₁ (by simp only [Phrase.rank]; omega)).andThen
          fun value pos₁ hlt₁ hmoved hpos₁ => ?_
        exact .gives hpos₁ rfl

/-- One more call reads a primary expression, and steps back from a token that begins none. -/
theorem agrees_primary (ih : AgreesBelow ts k) (hcost : 6 * (ts.length - pos) ≤ k) :
    Agrees ts (follow ts (k + 1) .primary pos) (readPhrase .primary (ts.drop pos)) := by
  rw [follow]
  obtain ⟨hdrop, htok⟩ | ⟨⟨tok, o⟩, hdrop, htok, hnext⟩ := drop_eq_nil_or_cons ts pos
  · rw [htok, hdrop, readPhrase, primary]
    exact .fails hdrop.symm
  · rw [htok, hdrop, readPhrase]
    have hother : Agrees ts (.fails .unexpectedToken (pos + 1 - 1) : Ran Expr)
        (.error ⟨.unexpectedToken, ⟨tok, o⟩ :: ts.drop (pos + 1)⟩) := .fails hdrop.symm
    unfold primary
    cases tok with
    | emit index => exact hother
    | number x => exact .gives hnext rfl
    | string s => exact .gives hnext rfl
    | ident name =>
      dsimp only
      cases hname : Keyword.ofName? name with
      | none => exact .gives hnext rfl
      | some keyword =>
        dsimp only
        cases constant? keyword with
        | none => exact .fails hdrop.symm
        | some value => exact .gives hnext rfl
    | punct p =>
      cases p with
      | lparen =>
        refine (ih .expression (pos + 1) hnext (by simp only [Phrase.rank]; omega)).andThen
          fun e pos₁ hlt hmoved hpos₁ => ?_
        exact .expect fun hlt₁ hnext₁ => .gives hnext₁ rfl
      | lbracket =>
        refine (ih (.items .rbracket) (pos + 1) hnext (by simp only [Phrase.rank]; omega)).andThen
          fun es pos₁ hlt hmoved hpos₁ => ?_
        exact .gives hpos₁ rfl
      | lbrace =>
        refine (ih .entries (pos + 1) hnext (by simp only [Phrase.rank]; omega)).andThen
          fun es pos₁ hlt hmoved hpos₁ => ?_
        exact .gives hpos₁ rfl
      | _ => exact hother

/-- One more call goes on with what is attached, and takes what stands after a point. -/
theorem agrees_postfixRest {e : Expr} (ih : AgreesBelow ts k) (hpos : pos ≤ ts.length)
    (hcost : 6 * (ts.length - pos) ≤ k) :
    Agrees ts (follow ts (k + 1) (.postfixRest e) pos)
      (readPhrase (.postfixRest e) (ts.drop pos)) := by
  rw [follow]
  obtain ⟨hdrop, htok⟩ | ⟨⟨tok, o⟩, hdrop, htok, hnext⟩ := drop_eq_nil_or_cons ts pos
  · have hnone : ∀ p, standsAt ts p pos = false := fun p => by simp [standsAt, htok]
    rw [hnone, hnone, hnone, hdrop, readPhrase]
    unfold postfixRest
    exact .gives hpos hdrop.symm
  · have hat : ∀ p, standsAt ts p pos = decide (tok = .punct p) := fun p => by
      simp [standsAt, htok]
    rw [hat, hat, hat, hdrop, readPhrase]
    have hother : Agrees ts (.gives e pos) (.ok (e, ⟨tok, o⟩ :: ts.drop (pos + 1))) :=
      .gives hpos hdrop.symm
    unfold postfixRest
    cases tok with
    | punct p =>
      cases p with
      | dot =>
        -- the token after the point is taken, whatever it is
        obtain ⟨hdrop₁, htok₁⟩ | ⟨⟨tok, o₁⟩, hdrop₁, htok₁, hnext₁⟩ :=
          drop_eq_nil_or_cons ts (pos + 1)
        · rw [htok₁, hdrop₁]
          have hend := List.drop_eq_nil_iff.1 hdrop₁
          exact .fails (List.drop_eq_nil_of_le (Nat.le_succ_of_le hend)).symm
        · rw [htok₁, hdrop₁]
          cases tok with
          | ident name =>
            exact (ih (.postfixRest (.member e name)) (pos + 2) hnext₁
              (by simp only [Phrase.rank]; omega)).last fun _ => rfl
          | _ => exact .fails rfl
      | lbracket =>
        refine (ih .expression (pos + 1) hnext (by simp only [Phrase.rank]; omega)).andThen
          fun key pos₁ hlt hmoved hpos₁ => ?_
        refine .expect fun hlt₁ hnext₁ => ?_
        exact (ih (.postfixRest (.index e key)) (pos₁ + 1) hnext₁
          (by simp only [Phrase.rank]; omega)).last fun _ => rfl
      | lparen =>
        refine (ih (.items .rparen) (pos + 1) hnext (by simp only [Phrase.rank]; omega)).andThen
          fun args pos₁ hlt hmoved hpos₁ => ?_
        exact (ih (.postfixRest (.call e args)) pos₁ hpos₁
          (by simp only [Phrase.rank]; omega)).last fun _ => rfl
      | _ => exact hother
    | _ => exact hother

/-- **Runs end as the parser does.** A run with more calls than its cost is not cut off. -/
theorem agrees_follow (ts : List Token) (k : Nat) : AgreesBelow ts k := by
  induction k with
  | zero => exact fun p pos _ hcost => absurd hcost (Nat.not_lt_zero _)
  | succ k ih =>
    intro p pos hpos hcost
    replace hcost := Nat.le_of_lt_succ hcost
    cases p with
    | expression => exact agrees_expression ih hpos hcost
    | binary min => exact agrees_binary ih hpos hcost
    | binaryRest min left => exact agrees_binaryRest ih hpos hcost
    | unary => exact agrees_unary ih hpos hcost
    | postfixed => exact agrees_postfixed ih hpos hcost
    | postfixRest e => exact agrees_postfixRest ih hpos hcost
    | items close => exact agrees_items ih hpos hcost
    | entries => exact agrees_entries ih hpos hcost
    | entry => exact agrees_entry ih hcost
    | primary => exact agrees_primary ih hcost

end

end Stencil.Script.Parse
