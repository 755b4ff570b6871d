import Stencil.Codegen.Grammar.Attribute

/-!
# Stencil.Codegen.Grammar.Path

Paths, and the arguments that their names have in angle brackets. Arguments are
written with the lifetimes first, whatever their order was.
-/

namespace Stencil.Codegen.Grammar

/-! ## arguments -/

/-- An argument of a name. -/
structure Argument where
  isLifetime : Bool
  tokens : List Token
  /-- Whether a comma follows. -/
  comma : Bool

/-- The comma between arguments. -/
def commaToken : Token := .mark ',' false

/-- An argument with the comma after it. -/
def Argument.written (a : Argument) : List Token :=
  a.tokens ++ if a.comma then [commaToken] else []

/-- Arguments with the lifetimes first. A comma is added if the last lifetime
has none and others come after it. -/
def arrange (arguments : List Argument) : List Token :=
  let (lifetimes, others) := arguments.partition (·.isLifetime)
  let gap := if lifetimes.getLast?.all (·.comma) || others.isEmpty then [] else [commaToken]
  lifetimes.flatMap Argument.written ++ gap ++ others.flatMap Argument.written

/-- Reads arguments in angle brackets with a rule for one, which says whether it
is a lifetime. Gives their number. -/
def angled (item : Reader Bool) : Reader Nat := do
  marks "<"
  let arguments ← iterate (fun before => do
    if (← comes (startsMarks ">")) then return (before, false)
    let (isLifetime, tokens) ← apart item
    let last ← comes (startsMarks ">")
    if !last then
      let _ ← apart (marks ",")
    return (before ++ [⟨isLifetime, tokens, !last⟩], !last)) []
  write (arrange arguments)
  marks ">"
  return arguments.length

/-- A constant as an argument: a literal, or a block. -/
def constantArgument (rules : Rules) : Reader Unit := do
  if (← comes startsConstant) then constant else block rules true

/-- Whether a constant comes next as an argument. -/
def startsConstantArgument (ts : List Token) : Bool :=
  startsConstant ts || startsOpening .curly ts

/-- Bounds after a colon, up to tokens of a kind. -/
def boundsUpTo (rules : Rules) (stop : List Token → Bool) : Reader Unit :=
  repeatedly do
    if (← comes stop) then return false
    let _ ← rules.bound false true
    if (← comes (startsMarks "+")) then
      take 1
      return true
    else return false

/-- One argument: a lifetime, a constant, a type, or the value or the bounds of
an associated type. Says whether it is a lifetime. -/
def argument (rules : Rules) : Reader Bool := do
  let ts ← ahead
  if startsLifetime ts && !startsMarks "+" (ts.drop 2) then
    take 2
    return true
  else if startsConstantArgument ts then
    constantArgument rules
    return false
  else
    if (← rules.type true) == .path true then
      if (← comes (startsMarks "=")) then
        take 1
        if (← comes startsConstantArgument) then constantArgument rules
        else
          let _ ← rules.type true
      else if (← comes (startsMarks ":")) then
        take 1
        boundsUpTo rules fun ts => startsMarks "," ts || startsMarks ">" ts
    return false

/-! ## paths -/

/-- What a path is. -/
structure PathForm where
  /-- Whether it begins with the type that it belongs to. -/
  qualified : Bool
  /-- Whether it is a single name, perhaps with arguments. -/
  single : Bool
  /-- Whether no name in it has arguments, not even empty angle brackets. -/
  plain : Bool
  /-- The number of tokens after the last name, if it has no arguments. -/
  bare : Option Nat

/-- Arguments in angle brackets, perhaps after a pair of colons. -/
def angledArguments (rules : Rules) : Reader (Option Nat) := do
  let colons ← comes (startsMarks "::")
  if colons then take 2
  let count ← angled (argument rules)
  return if count = 0 then some (if colons then 4 else 2) else none

/-- One name of a path, with its arguments. In expressions a pair of colons has
to stand before these. Gives the number of tokens after the name, if it has no
arguments. -/
def segment (rules : Rules) (inExpression : Bool) : Reader (Option Nat) := do
  if (← comes (startsWordOf ["super", "self", "crate", "try"])) then
    take 1
    return some 0
  if (← comes (startsWord "Self")) then take 1 else name
  let ts ← ahead
  let opens := startsMarks "<" ts && !startsMarks "<=" ts && !startsMarks "<<=" ts
  if !inExpression && opens || startsMarks "::" ts && startsMarks "<" (ts.drop 2) then
    angledArguments rules
  else return some 0

/-- The names of a path. Those after the first are read only while `more`
holds after a pair of colons. -/
def segments (rules : Rules) (inExpression : Bool) (more : List Token → Bool) :
    Reader PathForm :=
  iterate (fun before => do
      let bare ← segment rules inExpression
      let here : PathForm :=
        { before with plain := before.plain && bare == some 0, bare }
      let ts ← ahead
      if startsMarks "::" ts && more (ts.drop 2) then
        take 2
        return ({ here with single := false }, true)
      else return (here, false))
    ⟨false, true, true, some 0⟩

/-- A path without a type that it belongs to. -/
def path (rules : Rules) (inExpression : Bool) : Reader PathForm := do
  let rooted ← comes (startsMarks "::")
  if rooted then take 2
  let form ← segments rules inExpression fun ts => !startsOpening .round ts
  return { form with single := form.single && !rooted }

/-- A path that may begin with the type that it belongs to, in angle brackets
and perhaps with the trait that the rest is from. -/
def qualifiedPath (rules : Rules) (inExpression : Bool) : Reader PathForm := do
  if (← comes (startsMarks "<")) then
    take 1
    let _ ← rules.type true
    if (← comes (startsWord "as")) then
      take 1
      let _ ← path rules false
    marks ">"
    marks "::"
    let form ← segments rules inExpression fun _ => true
    return { form with qualified := true, single := false }
  else path rules inExpression

end Stencil.Codegen.Grammar
