import Stencil.Error
import Stencil.Script.Token

/-!
# Stencil.Script.Parse.Basic

What the parsers of expressions and of statements share. A parser takes a list
of tokens and returns what it read together with the tokens that are left. That
these are fewer is part of its type (`Left`), so recursion on what is left
needs no other bound.
-/

namespace Stencil.Script.Parse

/-- A mistake in the code, and the tokens from the place of the mistake on. -/
structure ParseError where
  cause : SyntaxCause
  rest : List Token
  deriving DecidableEq, Repr

/-- Tokens left of `ts` after at least one was taken. -/
abbrev Left (ts : List Token) : Type := { rest : List Token // rest.length < ts.length }

/-- Tokens left of `ts`, perhaps all of them. -/
abbrev LeftOrAll (ts : List Token) : Type := { rest : List Token // rest.length ≤ ts.length }

/-- The tokens left after the first one. -/
def Left.tail (t : Token) (rest : List Token) : Left (t :: rest) :=
  ⟨rest, Nat.lt_succ_self rest.length⟩

/-- The tokens left after taking some and then some more. -/
def Left.andThen {ts : List Token} (r : Left ts) (r₁ : Left r.1) : Left ts :=
  ⟨r₁.1, Nat.lt_trans r₁.2 r.2⟩

/-- The tokens left after taking some and perhaps some more. -/
def Left.andPerhaps {ts : List Token} (r : Left ts) (r₁ : LeftOrAll r.1) : Left ts :=
  ⟨r₁.1, Nat.lt_of_le_of_lt r₁.2 r.2⟩

/-- All tokens are left. -/
def LeftOrAll.all (ts : List Token) : LeftOrAll ts := ⟨ts, Nat.le_refl ts.length⟩

/-- The tokens left after dropping at most `n`. -/
def LeftOrAll.drop (n : Nat) (ts : List Token) : LeftOrAll ts :=
  ⟨ts.drop n, (List.drop_sublist n ts).length_le⟩

/-- The tokens left, seen as perhaps all of them. -/
def Left.orAll {ts : List Token} (r : Left ts) : LeftOrAll ts := ⟨r.1, Nat.le_of_lt r.2⟩

/-- The outcome of reading an `α` from the front of `ts`. -/
abbrev Parsed (α : Type) (ts : List Token) : Type := Except ParseError (α × Left ts)

/-- Takes a punctuation mark if it stands at the front. -/
def eat? (p : Punct) (ts : List Token) : Option (Left ts) :=
  match ts with
  | ⟨.punct q, _⟩ :: rest => if p = q then some (.tail _ rest) else none
  | _ => none

/-- Takes a punctuation mark that has to stand at the front. -/
def expect (p : Punct) (ts : List Token) : Except ParseError (Left ts) :=
  match eat? p ts with
  | some r => .ok r
  | none => .error ⟨.expected p, ts⟩

/-- Takes a name, which no keyword is. -/
def name (ts : List Token) : Parsed String ts :=
  match ts with
  | ⟨.ident name, offset⟩ :: rest =>
    if (Keyword.ofName? name).isSome then
      .error ⟨.expectedIdentifier, ⟨.ident name, offset⟩ :: rest⟩
    else .ok (name, .tail _ rest)
  | ts => .error ⟨.expectedIdentifier, ts⟩

/-- What is left after a semicolon, if one stands at the front. -/
def skipSemicolon (ts : List Token) : LeftOrAll ts :=
  match eat? .semicolon ts with
  | some rest => rest.orAll
  | none => .all ts

/-- The error for a mistake in the code `source`: it shows what stands before
the place of the mistake. -/
def ParseError.toError (source : String) (e : ParseError) : Error :=
  let cs := source.toList
  let size := Text.octets cs
  let offset := (e.rest.head?.map Token.offset).getD size
  .malformedAfter e.cause ((Text.takeOctets? (min offset size) cs).getD cs)

end Stencil.Script.Parse
