import Stencil.Proofs.Number.Integers
import Stencil.Proofs.Script.Written

/-!
# Stencil.Proofs.Script.Print

A printer of statements. Operands that are made with operators stand in parentheses,
and so does an expression that would begin a statement with a brace. What is printed is
one way to write the statements (`written_print`), whenever there is a way at all
(`Derives.printable`): names must not be keywords, and a literal must be what some token
stands for.

Main statement: the parser undoes printing, and writing in general, for all statements in
which no `else` would be taken by another `if`; and it makes no other statements.
-/

namespace Stencil.Script.Parse

/-! ## literals, names and marks -/

/-- The token that is written for a literal. Arrays and objects are no literals. -/
def literalToken : Json → Tok
  | .null | .array _ | .object _ => word .nullWord
  | .bool b => word (if b then .trueWord else .falseWord)
  | .number n => .number n.toBinary64
  | .string s => .string s

/-- Whether a token stands for a value. -/
def isLiteral : Json → Bool
  | .null | .bool _ | .string _ => true
  | .number (.int n) => n.natAbs ≤ maxSafeInteger
  | .number (.float x) => (safeInt? x).isNone && x.isFinite
  | .array _ | .object _ => false

/-- Whether a word is a name. -/
def isName (x : String) : Bool := (Keyword.ofName? x).isNone

/-- The mark of a binary operator. -/
def binaryMark : BinaryOp → Punct
  | .or => .or | .and => .and
  | .eq => .strictEq | .ne => .strictNe
  | .lt => .lt | .le => .le | .gt => .gt | .ge => .ge
  | .add => .plus | .sub => .minus
  | .mul => .star | .div => .slash | .rem => .percent

/-- The level of a binary operator. -/
def binaryLevel : BinaryOp → Nat
  | .or => 0
  | .and => 1
  | .eq | .ne => 2
  | .lt | .le | .gt | .ge => 3
  | .add | .sub => 4
  | .mul | .div | .rem => 5

/-- The mark of a sign. -/
def unaryMark : UnaryOp → Punct
  | .not => .bang
  | .neg => .minus
  | .plus => .plus

/-- Each binary operator has its mark and its level. -/
theorem mem_operators (op : BinaryOp) : (binaryMark op, op) ∈ operators (binaryLevel op) := by
  cases op <;> simp [binaryMark, binaryLevel, operators]

/-- Each sign has its mark. -/
theorem mem_signs (op : UnaryOp) : (unaryMark op, op) ∈ signs := by
  cases op <;> simp [unaryMark, signs]

/-- A name is a word that is no keyword. -/
theorem isName_iff {x : String} : isName x = true ↔ Keyword.ofName? x = none :=
  Option.isNone_iff_eq_none

/-- A literal is printed as one token. -/
theorem derives_literal {v : Json} (h : isLiteral v = true) :
    Derives .primary [literalToken v] (.literal v) := by
  cases v with
  | null => exact .constant (by simp [constants, Keyword.spelling])
  | bool b => cases b <;> exact .constant (by simp [constants, Keyword.spelling])
  | string s => exact .string s
  | number n =>
    have hvalue : ofBinary64 n.toBinary64 = .number n := by
      cases n with
      | int n =>
        rw [isLiteral, decide_eq_true_eq] at h
        exact ofBinary64_ofInt h
      | float x =>
        rw [isLiteral, Bool.and_eq_true, Option.isNone_iff_eq_none] at h
        rw [Number.toBinary64, ofBinary64, h.1]
        simp only [if_pos h.2]
    have hderives := Derives.number n.toBinary64
    rw [hvalue] at hderives
    exact hderives
  | array items => cases h
  | object fields => cases h

/-- The value of a number is a literal. -/
theorem isLiteral_ofBinary64 (x : Binary64) : isLiteral (ofBinary64 x) = true := by
  unfold ofBinary64
  split
  · next n hn =>
    unfold safeInt? at hn
    split at hn
    · next m hm =>
      split at hn
      · next hle =>
        obtain rfl := Option.some.inj hn
        simpa [isLiteral, Json.int] using hle
      · cases hn
    · cases hn
  · next hnone =>
    split
    · next hfinite => simp [isLiteral, hnone, hfinite]
    · rfl

/-! ## expressions -/

/-- Tokens in parentheses. -/
def parens (toks : List Tok) : List Tok := .punct .lparen :: (toks ++ [.punct .rparen])

/-- Whether an expression is made without operators, and so needs no parentheses when it
is an operand. -/
def isOperand : Expr → Bool
  | .unary .. | .binary .. | .conditional .. => false
  | _ => true

/-- The tokens `toks` of an expression as those of an operand. -/
def enclosed (e : Expr) (toks : List Tok) : List Tok := if isOperand e then toks else parens toks

/-- Whether an entry is the name of its value. -/
def isShort (key : String) : Expr → Bool
  | .ident name => name == key
  | _ => false

mutual

/-- The tokens that are printed for an expression. -/
def print : Expr → List Tok
  | .literal v => [literalToken v]
  | .ident name => [.ident name]
  | .array es => .punct .lbracket :: (printItems es ++ [.punct .rbracket])
  | .object es => .punct .lbrace :: (printEntries es ++ [.punct .rbrace])
  | .member e name => enclosed e (print e) ++ [.punct .dot, .ident name]
  | .index e key => enclosed e (print e) ++ .punct .lbracket :: (print key ++ [.punct .rbracket])
  | .call e args => enclosed e (print e) ++ .punct .lparen :: (printItems args ++ [.punct .rparen])
  | .unary op e => .punct (unaryMark op) :: enclosed e (print e)
  | .binary op l r => enclosed l (print l) ++ .punct (binaryMark op) :: enclosed r (print r)
  | .conditional c yes no =>
    enclosed c (print c) ++ .punct .question :: (print yes ++ .punct .colon :: print no)

/-- The tokens that are printed for items, with commas between them. -/
def printItems : List Expr → List Tok
  | [] => []
  | e :: es => print e ++ if es.isEmpty then [] else .punct .comma :: printItems es

/-- The tokens that are printed for entries, with commas between them. -/
def printEntries : List (String × Expr) → List Tok
  | [] => []
  | (key, value) :: es =>
    (.string key :: if isShort key value then [] else .punct .colon :: print value) ++
      if es.isEmpty then [] else .punct .comma :: printEntries es

end

mutual

/-- Whether there is a way to write an expression. -/
def printable : Expr → Bool
  | .literal v => isLiteral v
  | .ident name => isName name
  | .array es => printableItems es
  | .object es => printableEntries es
  | .member e _ => printable e
  | .index e key => printable e && printable key
  | .call e args => printable e && printableItems args
  | .unary _ e => printable e
  | .binary _ l r => printable l && printable r
  | .conditional c yes no => printable c && printable yes && printable no

/-- Whether there is a way to write each of the items. -/
def printableItems : List Expr → Bool
  | [] => true
  | e :: es => printable e && printableItems es

/-- Whether there is a way to write each of the entries. An entry that is the name of its
value may be any word. -/
def printableEntries : List (String × Expr) → Bool
  | [] => true
  | (key, value) :: es => (isShort key value || printable value) && printableEntries es

end

/-- What is known of the tokens that are printed for an expression. -/
def Printed (e : Expr) (toks : List Tok) : Prop :=
  Derives .expression toks e ∧ (isOperand e = true → Derives .postfixed toks e)

section
variable {e : Expr} {toks : List Tok}

/-- What needs no parentheses is an operand at each level. -/
theorem Derives.binary_of_postfixed (h : Derives .postfixed toks e) (level : Nat)
    (hle : level ≤ levels) : Derives (.binary level) toks e :=
  .loosen hle (.unary (.operand h))

/-- What needs no parentheses is printed as it is. -/
theorem Derives.printed (h : Derives .postfixed toks e) : Printed e toks :=
  ⟨.plain (h.binary_of_postfixed 0 (Nat.zero_le _)), fun _ => h⟩

/-- What is printed in parentheses, if it needs them, may be attached to. -/
theorem Printed.enclosed (h : Printed e toks) : Derives .postfixed (enclosed e toks) e := by
  rw [Parse.enclosed]
  by_cases hoperand : isOperand e = true
  · rw [if_pos hoperand]
    exact h.2 hoperand
  · rw [if_neg hoperand]
    exact .primary (.parens h.1)

/-- An entry is printed with its value unless that is the variable of its name. -/
theorem derives_entry {key : String} (h : isShort key e = false → Derives .expression toks e) :
    Derives .entry (.string key :: if isShort key e then [] else .punct .colon :: toks)
      (key, e) := by
  cases hshort : isShort key e with
  | false =>
    rw [if_neg Bool.false_ne_true]
    exact .full (.string key) (h hshort)
  | true =>
    unfold isShort at hshort
    split at hshort
    · next name =>
      obtain rfl : name = key := by simpa using hshort
      rw [if_pos rfl]
      exact .short (.string name)
    · cases hshort

end

mutual

/-- **Every printable expression is derived from what it is printed as.** -/
theorem printed : (e : Expr) → printable e = true → Printed e (print e)
  | .literal v, h => by
    rw [printable] at h
    rw [print]
    exact (Derives.primary (derives_literal h)).printed
  | .ident name, h => by
    rw [printable, isName_iff] at h
    rw [print]
    exact (Derives.primary (.name h)).printed
  | .array es, h => by
    rw [printable] at h
    rw [print]
    exact (Derives.primary (.array (derives_printItems es h))).printed
  | .object es, h => by
    rw [printable] at h
    rw [print]
    exact (Derives.primary (.object (derives_printEntries es h))).printed
  | .member e name, h => by
    rw [printable] at h
    rw [print]
    exact (Derives.member (printed e h).enclosed).printed
  | .index e key, h => by
    rw [printable, Bool.and_eq_true] at h
    rw [print]
    exact (Derives.index (printed e h.1).enclosed (printed key h.2).1).printed
  | .call e args, h => by
    rw [printable, Bool.and_eq_true] at h
    rw [print]
    exact (Derives.call (printed e h.1).enclosed (derives_printItems args h.2)).printed
  | .unary op e, h => by
    rw [printable] at h
    rw [print]
    have hsign := Derives.sign (mem_signs op) (.operand (printed e h).enclosed)
    exact ⟨.plain (.loosen (Nat.zero_le levels) (.unary hsign)), fun hoperand => by cases hoperand⟩
  | .binary op l r, h => by
    rw [printable, Bool.and_eq_true] at h
    rw [print]
    have hlt : binaryLevel op < levels := lt_levels (mem_operators op)
    have htree := Derives.operator (mem_operators op)
      ((printed l h.1).enclosed.binary_of_postfixed _ (Nat.le_of_lt hlt))
      ((printed r h.2).enclosed.binary_of_postfixed _ hlt)
    exact ⟨.plain (.loosen (Nat.zero_le _) htree), fun hoperand => by cases hoperand⟩
  | .conditional c yes no, h => by
    rw [printable, Bool.and_eq_true, Bool.and_eq_true] at h
    rw [print]
    have hcondition := (printed c h.1.1).enclosed.binary_of_postfixed 0 (Nat.zero_le _)
    exact ⟨.conditional hcondition (printed yes h.1.2).1 (printed no h.2).1,
      fun hoperand => by cases hoperand⟩

/-- So are the expressions of a list. -/
theorem derives_printItems :
    (es : List Expr) → printableItems es = true → Derives .items (printItems es) es
  | [], _ => by
    rw [printItems]
    exact .noItems
  | [e], h => by
    rw [printableItems, Bool.and_eq_true] at h
    rw [printItems, List.isEmpty_nil, if_pos rfl, List.append_nil]
    exact .lastItem (printed e h.1).1
  | e :: e' :: es, h => by
    rw [printableItems, Bool.and_eq_true] at h
    rw [printItems, List.isEmpty_cons, if_neg Bool.false_ne_true]
    exact .item (printed e h.1).1 (derives_printItems (e' :: es) h.2)

/-- So are the entries of an object. -/
theorem derives_printEntries :
    (es : List (String × Expr)) → printableEntries es = true →
      Derives .entries (printEntries es) es
  | [], _ => by
    rw [printEntries]
    exact .noEntries
  | [(key, value)], h => by
    rw [printableEntries, Bool.and_eq_true] at h
    rw [printEntries, List.isEmpty_nil, if_pos rfl, List.append_nil]
    exact .lastEntry (derives_entry fun hshort => (printed value (by simpa [hshort] using h.1)).1)
  | (key, value) :: entry :: es, h => by
    rw [printableEntries, Bool.and_eq_true] at h
    rw [printEntries, List.isEmpty_cons, if_neg Bool.false_ne_true]
    exact .entry
      (derives_entry fun hshort => (printed value (by simpa [hshort] using h.1)).1)
      (derives_printEntries (entry :: es) h.2)

end

/-- Expressions are read back as they are printed. -/
theorem expressionOnly_of_print {ts : List Token} {e : Expr} (h : printable e = true)
    (hts : ts.map Token.tok = print e) : expressionOnly ts = .ok e := by
  rw [expressionOnly_eq_ok_iff, reads_iff_derives, hts]
  exact (printed e h).1

/-- Whether there is a way to write what is derived. -/
def Category.Printable : (c : Category) → c.Value → Prop
  | .expression, e | .binary _, e | .unary, e | .postfixed, e | .primary, e => printable e = true
  | .items, es => printableItems es = true
  | .entries, es => printableEntries es = true
  | .entry, (key, value) => (isShort key value || printable value) = true

/-- What is derived is printable, so no expression that can be written is left out. -/
theorem Derives.printable {c : Category} {toks : List Tok} {v : c.Value} (h : Derives c toks v) :
    c.Printable v := by
  induction h with
  | plain h ih => exact ih
  | conditional hcondition hyes hno ih ih₁ ih₂ =>
    simp only [Category.Printable] at ih ih₁ ih₂
    simp only [Category.Printable, Parse.printable, ih, ih₁, ih₂, Bool.and_self]
  | tighter h ih => exact ih
  | operator hop hleft hright ih ih₁ =>
    simp only [Category.Printable] at ih ih₁
    simp only [Category.Printable, Parse.printable, ih, ih₁, Bool.and_self]
  | unary h ih => exact ih
  | sign hop h ih => simpa only [Category.Printable, Parse.printable] using ih
  | operand h ih => exact ih
  | primary h ih => exact ih
  | member h ih => simpa only [Category.Printable, Parse.printable] using ih
  | index h hkey ih ih₁ =>
    simp only [Category.Printable] at ih ih₁
    simp only [Category.Printable, Parse.printable, ih, ih₁, Bool.and_self]
  | call h hargs ih ih₁ =>
    simp only [Category.Printable] at ih ih₁
    simp only [Category.Printable, Parse.printable, ih, ih₁, Bool.and_self]
  | number x => simpa only [Category.Printable, Parse.printable] using isLiteral_ofBinary64 x
  | string s => rfl
  | constant hword =>
    simp only [constants, List.mem_cons, List.not_mem_nil, or_false, Prod.mk.injEq] at hword
    obtain ⟨-, rfl⟩ | ⟨-, rfl⟩ | ⟨-, rfl⟩ | ⟨-, rfl⟩ := hword <;> rfl
  | name hname => simpa only [Category.Printable, Parse.printable] using isName_iff.2 hname
  | parens h ih => exact ih
  | array h ih => simpa only [Category.Printable, Parse.printable] using ih
  | object h ih => simpa only [Category.Printable, Parse.printable] using ih
  | noItems => rfl
  | lastItem h ih =>
    simp only [Category.Printable] at ih
    simp only [Category.Printable, printableItems, ih, Bool.and_self]
  | item h hmore ih ih₁ =>
    simp only [Category.Printable] at ih ih₁
    simp only [Category.Printable, printableItems, ih, ih₁, Bool.and_self]
  | noEntries => rfl
  | lastEntry h ih =>
    simp only [Category.Printable] at ih
    simp only [Category.Printable, printableEntries, ih, Bool.and_self]
  | entry h hmore ih ih₁ =>
    simp only [Category.Printable] at ih ih₁
    simp only [Category.Printable, printableEntries, ih, ih₁, Bool.and_self]
  | full hkey hvalue ih =>
    simp only [Category.Printable] at ih
    simp only [Category.Printable, ih, Bool.or_true]
  | short hkey => simp only [Category.Printable, isShort, BEq.rfl, Bool.true_or]

/-! ## statements -/

/-- The tokens of an expression that begins a statement. -/
def opening (toks : List Tok) : List Tok :=
  if toks.head? = some (.punct .lbrace) then parens toks else toks

mutual

/-- The tokens that are printed for a statement. Variables are declared with `let`, those
of loops with `const`. -/
def printStatement : Stmt → List Tok
  | .emit index => [.emit index]
  | .expr e => opening (print e) ++ [.punct .semicolon]
  | .declare x none => [word .letWord, .ident x, .punct .semicolon]
  | .declare x (some e) =>
    word .letWord :: .ident x :: .punct .assign :: (print e ++ [.punct .semicolon])
  | .assign x op e => .ident x :: .punct (assignMark op) :: (print e ++ [.punct .semicolon])
  | .branch e yes none =>
    word .ifWord :: .punct .lparen :: (print e ++ .punct .rparen :: printStatement yes)
  | .branch e yes (some no) =>
    word .ifWord :: .punct .lparen ::
      (print e ++ .punct .rparen :: (printStatement yes ++ word .elseWord :: printStatement no))
  | .forOf x e body =>
    word .forWord :: .punct .lparen :: ([word .constWord, .ident x] ++
      .ident LoopKind.of.word :: (print e ++ .punct .rparen :: printStatement body))
  | .forIn x e body =>
    word .forWord :: .punct .lparen :: ([word .constWord, .ident x] ++
      .ident LoopKind.keys.word :: (print e ++ .punct .rparen :: printStatement body))
  | .block body => .punct .lbrace :: (printStatements body ++ [.punct .rbrace])
  | .empty => [.punct .semicolon]

/-- The tokens that are printed for statements. -/
def printStatements : List Stmt → List Tok
  | [] => []
  | s :: rest => printStatement s ++ printStatements rest

end

mutual

/-- Whether there is a way to write a statement. -/
def printableStatement : Stmt → Bool
  | .emit _ => true
  | .expr e => printable e
  | .declare x none => isName x
  | .declare x (some e) => isName x && printable e
  | .assign x _ e => isName x && printable e
  | .branch e yes none => printable e && printableStatement yes
  | .branch e yes (some no) => printable e && printableStatement yes && printableStatement no
  | .forOf x e body => isName x && printable e && printableStatement body
  | .forIn x e body => isName x && printable e && printableStatement body
  | .block body => printableStatements body
  | .empty => true

/-- Whether there is a way to write each of the statements. -/
def printableStatements : List Stmt → Bool
  | [] => true
  | s :: rest => printableStatement s && printableStatements rest

end

/-- An expression is written so that it opens a statement. -/
theorem written_opening {toks : List Tok} {e : Expr} (h : Derives .expression toks e) :
    Written .statement (opening toks ++ [.punct .semicolon]) (.expr e) := by
  rw [opening]
  by_cases hbrace : toks.head? = some (.punct .lbrace)
  · rw [if_pos hbrace]
    have hparens := (Derives.primary (.parens h)).binary_of_postfixed 0 (Nat.zero_le _)
    exact .expr (.plain hparens) (by simp [parens])
  · rw [if_neg hbrace]
    exact .expr h hbrace

/-- A loop is printed with a declared variable. -/
theorem written_loop {front : List Tok} {x : String} {e : Expr} {body : Stmt} (kind : LoopKind)
    (hx : isName x = true) (he : printable e = true) (hbody : Written .statement front body) :
    Written .statement (word .forWord :: .punct .lparen :: ([word .constWord, .ident x] ++
      .ident kind.word :: (print e ++ .punct .rparen :: front))) (kind.loop x e body) :=
  .loop (.declared rfl) (isName_iff.1 hx) (printed e he).1 hbody

mutual

/-- **Every printable statement is what its tokens are written for.** -/
theorem written_print :
    (s : Stmt) → printableStatement s = true → Written .statement (printStatement s) s
  | .emit index, _ => by
    rw [printStatement]
    exact .emit index
  | .expr e, h => by
    rw [printableStatement] at h
    rw [printStatement]
    exact written_opening (printed e h).1
  | .declare x none, h => by
    rw [printableStatement, isName_iff] at h
    rw [printStatement]
    exact .declare rfl h
  | .declare x (some e), h => by
    rw [printableStatement, Bool.and_eq_true, isName_iff] at h
    rw [printStatement]
    exact .declareAs rfl h.1 (printed e h.2).1
  | .assign x op e, h => by
    rw [printableStatement, Bool.and_eq_true, isName_iff] at h
    rw [printStatement]
    exact .assign h.1 (printed e h.2).1
  | .branch e yes none, h => by
    rw [printableStatement, Bool.and_eq_true] at h
    rw [printStatement]
    exact .branch (printed e h.1).1 (written_print yes h.2)
  | .branch e yes (some no), h => by
    rw [printableStatement, Bool.and_eq_true, Bool.and_eq_true] at h
    rw [printStatement]
    exact .branchElse (printed e h.1.1).1 (written_print yes h.1.2) (written_print no h.2)
  | .forOf x e body, h => by
    rw [printableStatement, Bool.and_eq_true, Bool.and_eq_true] at h
    rw [printStatement]
    exact written_loop .of h.1.1 h.1.2 (written_print body h.2)
  | .forIn x e body, h => by
    rw [printableStatement, Bool.and_eq_true, Bool.and_eq_true] at h
    rw [printStatement]
    exact written_loop .keys h.1.1 h.1.2 (written_print body h.2)
  | .block body, h => by
    rw [printableStatement] at h
    rw [printStatement]
    exact .block (written_printAll body h)
  | .empty, _ => by
    rw [printStatement]
    exact .empty

/-- So are statements one after the other. -/
theorem written_printAll : (body : List Stmt) → printableStatements body = true →
    Written .statements (printStatements body) body
  | [], _ => by
    rw [printStatements]
    exact .done
  | s :: rest, h => by
    rw [printableStatements, Bool.and_eq_true] at h
    rw [printStatements]
    exact .next (written_print s h.1) (written_printAll rest h.2)

end

/-- Well nested statements are read back as they are printed. -/
theorem statements_of_print {ts : List Token} {body : List Stmt}
    (h : printableStatements body = true) (hnested : wellNestedAll body = true)
    (hts : ts.map Token.tok = printStatements body) : statements ts = .ok body := by
  have hwritten := written_printAll body h
  rw [← hts] at hwritten
  exact statements_of_written hwritten hnested

/-- Whether there is a way to write what a clause is read as. -/
def Clause.Printable : (c : Clause) → c.Value → Prop
  | .statement, s => printableStatement s = true
  | .statements, body => printableStatements body = true

/-- What is written is printable, so no statement that can be written is left out. -/
theorem Written.printable {c : Clause} {toks : List Tok} {v : c.Value} (h : Written c toks v) :
    c.Printable v := by
  induction h with
  | emit index => rfl
  | empty => rfl
  | expr hderives hbrace =>
    have he : Parse.printable _ = true := hderives.printable
    simp only [Clause.Printable, printableStatement, he]
  | declare hk hx => simp only [Clause.Printable, printableStatement, isName_iff.2 hx]
  | declareAs hk hx hderives =>
    have he : Parse.printable _ = true := hderives.printable
    simp only [Clause.Printable, printableStatement, isName_iff.2 hx, he, Bool.and_self]
  | assign hx hderives =>
    have he : Parse.printable _ = true := hderives.printable
    simp only [Clause.Printable, printableStatement, isName_iff.2 hx, he, Bool.and_self]
  | branch hderives hyes ih =>
    have he : Parse.printable _ = true := hderives.printable
    simp only [Clause.Printable] at ih
    simp only [Clause.Printable, printableStatement, he, ih, Bool.and_self]
  | branchElse hderives hyes hno ih ih₁ =>
    have he : Parse.printable _ = true := hderives.printable
    simp only [Clause.Printable] at ih ih₁
    simp only [Clause.Printable, printableStatement, he, ih, ih₁, Bool.and_self]
  | @loop head toks front x kind e body hhead hx hderives hbody ih =>
    have he : Parse.printable e = true := hderives.printable
    simp only [Clause.Printable] at ih
    cases kind <;>
      simp only [Clause.Printable, LoopKind.loop, printableStatement, isName_iff.2 hx, he, ih,
        Bool.and_self]
  | block hbody ih => simpa only [Clause.Printable, printableStatement] using ih
  | done => rfl
  | next hs hbody ih ih₁ =>
    simp only [Clause.Printable] at ih ih₁
    simp only [Clause.Printable, printableStatements, ih, ih₁, Bool.and_self]

/-- **Parsing undoes printing.** Statements whose names are no keywords and whose
expressions can be written are printed to tokens that are read as these statements, if
every `else` in them follows a statement that would not take it. So is any other way to
write them, and there are no other statements that can be written. Whatever is read is of
this kind: an `else` belongs to the nearest `if` that is open. -/
theorem statements_undo_printing :
    (∀ (ts : List Token) (body : List Stmt), printableStatements body = true →
      wellNestedAll body = true → ts.map Token.tok = printStatements body →
      statements ts = .ok body) ∧
    (∀ (ts : List Token) (body : List Stmt), Written .statements (ts.map Token.tok) body →
      wellNestedAll body = true → statements ts = .ok body) ∧
    (∀ body : List Stmt,
      printableStatements body = true ↔ ∃ toks, Written .statements toks body) ∧
    ∀ (ts : List Token) (body : List Stmt), statements ts = .ok body →
      wellNestedAll body = true := by
  refine ⟨fun ts body hprintable hnested hts => ?_, fun _ _ h hnested => ?_,
    fun body => ⟨fun h => ⟨_, written_printAll body h⟩, fun ⟨_, h⟩ => h.printable⟩, fun _ _ h => ?_⟩
  · exact statements_of_print hprintable hnested hts
  · exact statements_of_written h hnested
  · exact wellNestedAll_of_statements h

/-- `if (a) if (b) … else …` is how two trees are printed. The `else` is read as that of
the inner `if`, and never as that of the outer one. -/
theorem statements_undo_printing_dangling :
    let inner : List Stmt :=
      [.branch (.ident "a") (.branch (.ident "b") (.emit 0) (some (.emit 1))) none]
    let outer : List Stmt :=
      [.branch (.ident "a") (.branch (.ident "b") (.emit 0) none) (some (.emit 1))]
    let ts : List Token := (printStatements inner).map fun tok => ⟨tok, 0⟩
    printStatements outer = printStatements inner ∧ printableStatements inner = true ∧
      wellNestedAll inner = true ∧ statements ts = .ok inner ∧
      ∀ ts', statements ts' ≠ .ok outer := by
  intro inner outer ts
  refine ⟨rfl, rfl, rfl, statements_undo_printing.1 ts inner rfl rfl rfl, fun ts' h => ?_⟩
  have hnested := statements_undo_printing.2.2.2 ts' outer h
  cases hnested

end Stencil.Script.Parse
