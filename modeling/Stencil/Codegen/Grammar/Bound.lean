import Stencil.Codegen.Grammar.Path

/-!
# Stencil.Codegen.Grammar.Bound

Bounds: what types are asked to have. A bound is a trait, perhaps with
parameters of its own (`for<'a>`) or a sign that it may be missing (`?`), a
lifetime, or a list of what a type holds on to (`use<'a>`).
-/

namespace Stencil.Codegen.Grammar

/-! ## parameters -/

/-- A colon and the bounds of a parameter. The colon alone is not written. -/
def parameterBounds (bounds : Reader Unit) : Reader Unit := do
  if (← comes (startsMarks ":")) then
    let (_, colon) ← apart (take 1)
    let (_, tokens) ← apart bounds
    if !tokens.isEmpty then
      write colon
      write tokens

/-- Whether a parameter ends here. -/
def isParameterEnd (ts : List Token) : Bool :=
  isEnd ts || startsMarks "," ts || startsMarks ">" ts

/-- A parameter: a lifetime, a type, or a constant. Says whether it is a
lifetime. -/
def parameter (rules : Rules) : Reader Bool := do
  attributes rules
  let ts ← ahead
  if startsName ts then
    take 1
    parameterBounds (boundsUpTo rules fun ts => isParameterEnd ts || startsMarks "=" ts)
    if (← comes (startsMarks "=")) then
      take 1
      let _ ← rules.type true
    return false
  else if startsLifetime ts then
    take 2
    parameterBounds (separatedBy "+" isParameterEnd lifetime)
    return true
  else
    word "const"
    name
    marks ":"
    let _ ← rules.type true
    if (← comes (startsMarks "=")) then
      take 1
      if (← comes startsName) then take 1 else constantArgument rules
    return false

/-- The parameters that a bound or a function pointer begins with. -/
def binder (rules : Rules) : Reader Unit := do
  word "for"
  marks "<"
  separatedBy "," (startsMarks ">") do
    let _ ← parameter rules
  marks ">"

/-! ## results -/

/-- The type of a result after an arrow, if there is one. It may be a list of
bounds if `many` holds. -/
def result (rules : Rules) (many : Bool) : Reader Unit := do
  if (← comes (startsMarks "->")) then
    take 2
    let _ ← rules.type many

/-! ## traits -/

/-- The types that a trait of functions takes and gives. They replace empty
angle brackets after its name and pairs of colons. -/
def callTypes (rules : Rules) (form : PathForm) : Reader Unit := do
  match form.bare with
  | none => return
  | some width =>
    let ts ← ahead
    let colons := startsMarks "::" ts && startsOpening .round (ts.drop 2)
    if startsOpening .round ts || colons then
      unwrite width
      if colons then
        let _ ← apart (take 2)
      within .round <| list do
        let _ ← rules.type true
      result rules false

/-- A trait. Where `constants` holds it may be one that has to be there when
constants are computed; the result says so. -/
def trait (rules : Rules) (constants : Bool) : Reader BoundForm := do
  let bound ← comes (startsWord "for")
  if bound then binder rules
  let ts ← ahead
  let constant := startsOpening .square ts || startsWord "const" ts
  if startsOpening .square ts then within .square (word "const")
  else if constant then take 1
  guard (!constant || constants)
  if (← comes (startsMarks "?")) then
    guard !bound
    take 1
  let form ← path rules false
  callTypes rules form
  return if constant then .constant else .trait

/-- What a type holds on to: lifetimes first, then types. -/
def captures : Reader Unit := do
  word "use"
  let _ ← angled do
    if (← comes startsLifetime) then
      take 2
      return true
    else
      takeIf 1 fun ts => startsName ts || startsWord "Self" ts
      return false

/-! ## bounds -/

/-- A bound. A trait may stand in parentheses. -/
def bound (rules : Rules) (mayCapture constants : Bool) : Reader BoundForm := do
  let ts ← ahead
  if startsLifetime ts then
    take 2
    return .lifetime
  else if startsWord "use" ts then
    captures
    guard mayCapture
    return .captures
  else
    asReadIf (· == .constant) do
      if startsOpening .round ts then within .round (trait rules constants)
      else trait rules constants

/-- Whether a list of bounds goes on after a plus sign. -/
def startsBound (ts : List Token) : Bool :=
  startsAnyWord ts || startsMarks "::" ts || startsMarks "?" ts || startsLifetime ts ||
    startsOpening .round ts

/-- Bounds with plus signs between them, or a single one unless `many` holds. A
plus sign may stand at their end. At least one has to be a trait. -/
def bounds (rules : Rules) (many mayCapture constants : Bool) : Reader Unit := do
  let forms ← iterate (fun before => do
    let forms := before ++ [← bound rules mayCapture constants]
    if many && (← comes (startsMarks "+")) then
      take 1
      let ts ← ahead
      return (forms, startsBound ts || constants && startsOpening .square ts)
    else return (forms, false)) []
  guard (forms.any fun form => form == .trait || form == .constant)

end Stencil.Codegen.Grammar
