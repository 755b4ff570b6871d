import Stencil.Script.Cause
import Stencil.Text.Find
import Stencil.Text.Hex
import Stencil.Text.Utf8

/-!
# Stencil.Script.StringLiteral

Strings of the script language. A string stands between two equal quotes and
may run over lines. A backslash gives the character after it another meaning,
or hides it: `\n`, `\r`, `\t` and `\0` are controls, `\u` is followed by four
hexadecimal digits or by some in braces, and any other character stands for
itself.
-/

namespace Stencil.Script

open Text

/-- Whether `c` begins and ends strings. -/
def isQuote (c : Char) : Bool := c == '"' || c == '\'' || c == '\x60'

/-- The code point that hexadecimal digits stand for, perhaps after a plus
sign. -/
def codePoint? (cs : List Char) : Option Nat :=
  let digits := match cs with
    | '+' :: ds => ds
    | ds => ds
  if digits.isEmpty then none else hexNumber? digits

/-- The character that an escape stands for whose `\u` comes before `cs`, and
the number of characters that it goes on for. Without braces the digits are the
next four octets, or all that is left where these are fewer or would cut a
character in two. -/
def unicodeEscape? (cs : List Char) : Option (Char × Nat) :=
  let (digits?, length) :=
    match cs with
    | '\x7b' :: rest =>
      match cutAt? ['\x7d'] rest with
      | some (digits, _) => (some digits, digits.length + 2)
      | none => (none, 0)
    | _ => (some ((takeOctets? 4 cs).getD cs), 4)
  do
    let digits ← digits?
    let n ← codePoint? digits
    let c ← charOf? n
    return (c, length)

/-- The character that a letter stands for after a backslash. -/
def escapedChar (c : Char) : Char :=
  match c with
  | 'n' => '\n'
  | 'r' => '\r'
  | 't' => '\t'
  | '0' => '\x00'
  | c => c

/-- The characters that a string stands for whose opening quote comes before
`cs`, and what follows its closing quote. -/
def readString (quote : Char) (cs : List Char) : Except SyntaxCause (List Char × List Char) :=
  match cs with
  | [] => .error .unterminatedString
  | '\\' :: [] => .error .unterminatedString
  | '\\' :: 'u' :: rest =>
    match unicodeEscape? rest with
    | none => .error .invalidEscape
    | some (c, length) =>
      (readString quote (rest.drop length)).map fun (value, rest) => (c :: value, rest)
  | '\\' :: c :: rest =>
    (readString quote rest).map fun (value, rest) => (escapedChar c :: value, rest)
  | c :: rest =>
    if c == quote then .ok ([], rest)
    else (readString quote rest).map fun (value, rest) => (c :: value, rest)
termination_by cs.length
decreasing_by all_goals simp only [List.length_cons, List.length_drop]; omega

theorem length_lt_of_readString {quote : Char} {cs value rest : List Char}
    (h : readString quote cs = .ok (value, rest)) : rest.length < cs.length := by
  fun_induction readString quote cs generalizing value rest with
  | case1 => contradiction
  | case2 => contradiction
  | case3 => contradiction
  | case4 cs c n hc ih =>
    cases hr : readString quote (cs.drop n) with
    | error e => simp [hr, Except.map] at h
    | ok p =>
      simp only [hr, Except.map, Except.ok.injEq, Prod.mk.injEq] at h
      have := ih hr
      simp only [List.length_drop, List.length_cons] at this ⊢
      rw [← h.2]
      omega
  | case5 c cs _ ih =>
    cases hr : readString quote cs with
    | error e => simp [hr, Except.map] at h
    | ok p =>
      simp only [hr, Except.map, Except.ok.injEq, Prod.mk.injEq] at h
      have := ih hr
      simp only [List.length_cons]
      rw [← h.2]
      omega
  | case6 c cs =>
    simp only [Except.ok.injEq, Prod.mk.injEq] at h
    simp [← h.2]
  | case7 c cs _ _ _ _ ih =>
    cases hr : readString quote cs with
    | error e => simp [hr, Except.map] at h
    | ok p =>
      simp only [hr, Except.map, Except.ok.injEq, Prod.mk.injEq] at h
      have := ih hr
      simp only [List.length_cons]
      rw [← h.2]
      omega

end Stencil.Script
