import Stencil.Error
import Stencil.Number.Numeral
import Stencil.Script.StringLiteral
import Stencil.Unicode.Numeric
import Stencil.Unicode.WhiteSpace

/-!
# Stencil.Script.Lexer

Tokens of a piece of code. White space and comments stand between tokens and
belong to none. Of the operators the longest that fits is taken.

Every rule takes at least one character (`length_le_of_lexeme`), so `tokens`
ends by the length of what is left.
-/

namespace Stencil.Script

open Text Unicode

/-- A mistake found by the lexer. `rest` is the part of the piece of code that
an error message does not show: what follows the place of the mistake, or
nothing if the whole piece is to be shown. -/
structure LexError where
  cause : SyntaxCause
  rest : List Char
  deriving DecidableEq, Repr

/-! ## character classes -/

/-- Whether an identifier may begin with `c`. -/
def isIdentStart (c : Char) : Bool := isAlphabetic c || c == '_' || c == '$'

/-- Whether `c` may follow in an identifier. -/
def isIdentPart (c : Char) : Bool := isAlphanumeric c || c == '_' || c == '$'

/-! ## single tokens -/

/-- A number that begins with the digit `c`, and what follows it. A point
belongs to it only if a digit comes next. -/
def readNumber (c : Char) (cs : List Char) : Binary64 × List Char :=
  let (whole, rest) := spanDigits cs
  match rest with
  | '.' :: d :: ds =>
    if d.isDigit then
      let (fraction, rest) := spanDigits ds
      ((Numeral.ofParts false (c :: whole) (d :: fraction) 0).toBinary64, rest)
    else ((Numeral.ofParts false (c :: whole) [] 0).toBinary64, rest)
  | _ => ((Numeral.ofParts false (c :: whole) [] 0).toBinary64, rest)

/-- The operator or punctuation mark at the front, and what follows it. -/
def readPunct? (cs : List Char) : Option (Punct × List Char) :=
  Punct.all.findSome? fun p => (afterPrefix? p.spelling.toList cs).map (p, ·)

/-- What stands at the front of `c :: cs`: a token, or something between tokens,
and what follows it. -/
def lexeme (c : Char) (cs : List Char) : Except LexError (Option Tok × List Char) :=
  if isWhiteSpace c then .ok (none, cs)
  else if c == '/' && cs.head? == some '/' then .ok (none, (cs.dropWhile (· != '\n')).drop 1)
  else if c == '/' && cs.head? == some '*' then
    match cutAt? ['*', '/'] (cs.drop 1) with
    | some (_, rest) => .ok (none, rest)
    | none => .error ⟨.unterminatedComment, []⟩
  else if isIdentStart c then
    .ok (some (.ident (String.ofList (c :: cs.takeWhile isIdentPart))), cs.dropWhile isIdentPart)
  else if c.isDigit then
    let (x, rest) := readNumber c cs
    .ok (some (.number x), rest)
  else if isQuote c then
    match readString c cs with
    | .ok (value, rest) => .ok (some (.string (String.ofList value)), rest)
    | .error cause => .error ⟨cause, []⟩
  else
    match readPunct? (c :: cs) with
    | some (p, rest) => .ok (some (.punct p), rest)
    | none => .error ⟨.unexpectedCharacter c, c :: cs⟩

/-! ## progress -/

theorem length_dropWhile_le (p : Char → Bool) (cs : List Char) :
    (cs.dropWhile p).length ≤ cs.length := by
  induction cs with
  | nil => simp
  | cons c cs ih =>
    simp only [List.dropWhile_cons]
    split
    · simp only [List.length_cons]; omega
    · exact Nat.le_refl _

theorem length_readNumber_le (c : Char) (cs : List Char) :
    (readNumber c cs).2.length ≤ cs.length := by
  have h := length_dropWhile_le Char.isDigit cs
  unfold readNumber spanDigits
  dsimp only
  split
  · next d ds hd =>
    rw [hd] at h
    have := length_dropWhile_le Char.isDigit ds
    simp only [List.length_cons] at h
    split
    · dsimp only; omega
    · dsimp only; rw [hd]; exact h
  · exact h

theorem length_lt_of_readPunct? {cs rest : List Char} {p : Punct}
    (h : readPunct? cs = some (p, rest)) : rest.length < cs.length := by
  obtain ⟨q, -, hq⟩ := List.exists_of_findSome?_eq_some h
  obtain ⟨r, hr, he⟩ := Option.map_eq_some_iff.1 hq
  simp only [Prod.mk.injEq] at he
  rw [← he.2, eq_append_of_afterPrefix? hr, List.length_append]
  have : 0 < q.spelling.toList.length := by cases q <;> decide
  omega

/-- A lexeme takes at least its first character. -/
theorem length_le_of_lexeme {c : Char} {cs rest : List Char} {tok : Option Tok}
    (h : lexeme c cs = .ok (tok, rest)) : rest.length ≤ cs.length := by
  unfold lexeme at h
  split at h
  · simp_all
  split at h
  · simp only [Except.ok.injEq, Prod.mk.injEq] at h
    rw [← h.2, List.length_drop]
    have := length_dropWhile_le (· != '\n') cs
    omega
  split at h
  · split at h
    · next before r hr =>
      simp only [Except.ok.injEq, Prod.mk.injEq] at h
      have := congrArg List.length (eq_append_of_cutAt? hr)
      simp only [List.length_append, List.length_drop] at this
      rw [← h.2]
      omega
    · contradiction
  split at h
  · simp only [Except.ok.injEq, Prod.mk.injEq] at h
    rw [← h.2]
    exact length_dropWhile_le _ _
  split at h
  · simp only [Except.ok.injEq, Prod.mk.injEq] at h
    rw [← h.2]
    exact length_readNumber_le c cs
  split at h
  · split at h
    · next value r hr =>
      simp only [Except.ok.injEq, Prod.mk.injEq] at h
      rw [← h.2]
      exact Nat.le_of_lt (length_lt_of_readString hr)
    · contradiction
  · split at h
    · next p r hr =>
      simp only [Except.ok.injEq, Prod.mk.injEq] at h
      have := length_lt_of_readPunct? hr
      simp only [List.length_cons] at this
      rw [← h.2]
      omega
    · contradiction

/-! ## token lists -/

/-- The tokens of a run of characters, the first of which has offset `base`. -/
def tokensFrom (base : Nat) (cs : List Char) : Except LexError (List Token) :=
  match cs with
  | [] => .ok []
  | c :: cs =>
    match _h : lexeme c cs with
    | .error e => .error e
    | .ok (tok?, rest) => do
      let tokens ← tokensFrom (base + (octets (c :: cs) - octets rest)) rest
      return (tok?.map fun tok => ⟨tok, base⟩).toList ++ tokens
termination_by cs.length
decreasing_by
  have := length_le_of_lexeme _h
  simp only [List.length_cons]
  omega

/-- The tokens of a piece of code whose first character has offset `base`. -/
def tokens (base : Nat) (code : String) : Except Error (List Token) :=
  match tokensFrom base code.toList with
  | .ok tokens => .ok tokens
  | .error e =>
    .error (.malformedAfter e.cause (code.toList.take (code.toList.length - e.rest.length)))

end Stencil.Script
