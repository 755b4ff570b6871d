import Stencil.Codegen.Grammar.Bound

/-!
# Stencil.Codegen.Grammar.TypeRule

Types: a path with its arguments, a tuple, a slice or an array, a reference or a
pointer, a function pointer, a list of bounds, something in brackets that stands
for a type, or one of the types of a single token.
-/

namespace Stencil.Codegen.Grammar

/-! ## function pointers -/

/-- A parameter of a function pointer, perhaps with its name. The first one may
be the receiver. -/
def pointerParameter (rules : Rules) (first : Bool) : Reader Unit := do
  let receiver (ts : List Token) :=
    first && startsWord "mut" ts && startsWord "self" (ts.drop 1)
  let _ ← asReadIf id do
    let changeable := receiver (← ahead)
    if changeable then take 1
    let ts ← ahead
    let own := first && startsWord "self" ts
    let named := (startsName ts || startsWord "_" ts || own) &&
      startsMarks ":" (ts.drop 1) && !startsMarks "::" (ts.drop 1)
    if named then take 2
    if !(named && own) && receiver (← ahead) then
      take 2
      return true
    else if changeable && !named then
      word "self"
      return true
    else
      let _ ← rules.type true
      return changeable

/-- Whether the points come next that stand for any number of parameters,
perhaps with a name before them. -/
def startsVariadic (ts : List Token) : Bool :=
  startsMarks "..." ts ||
    (startsName ts || startsWord "_" ts) && startsMarks ":" (ts.drop 1) &&
      startsMarks "..." (ts.drop 2)

/-- The parameters of a function pointer. -/
def pointerParameters (rules : Rules) : Reader Unit := do
  let _ ← iterate (fun first => do
    if (← comes isEnd) then return (first, false)
    attributes rules
    if (← comes startsVariadic) then
      if (← comes startsAnyWord) then take 2
      marks "..."
      optionalMarks ","
      return (first, false)
    pointerParameter rules first
    if (← comes isEnd) then return (first, false)
    marks ","
    return (false, true)) true

/-- A function pointer. -/
def functionPointer (rules : Rules) : Reader Unit := do
  optionalWord "unsafe"
  if (← comes (startsWord "extern")) then
    take 1
    readIf startsText (take 1)
  word "fn"
  within .round (pointerParameters rules)
  result rules false

/-! ## parentheses -/

/-- Bounds after plus signs, each of which needs one. Says whether there are
any. -/
def furtherBounds (rules : Rules) : Reader Bool :=
  iterate (fun any => do
    if (← comes (startsMarks "+")) then
      take 1
      let _ ← rules.bound true true
      return (true, true)
    else return (any, false)) false

/-- What stands between parentheses. -/
inductive Enclosed where
  | type (form : TypeForm)
  /-- A bound that may be missing. -/
  | optionalBound
  /-- Any number of types but one, or a list of bounds that begins with a
  lifetime. -/
  | other

/-- Reads what stands between parentheses. -/
def enclosed (rules : Rules) : Reader Enclosed := do
  let ts ← ahead
  if isEnd ts then return .other
  else if startsLifetime ts then
    bounds rules true false false
    return .other
  else if startsMarks "?" ts then
    let _ ← trait rules false
    return .optionalBound
  else
    let form ← rules.type true
    if (← comes (startsMarks ",")) then
      take 1
      list do
        let _ ← rules.type true
      return .other
    else return .type form

/-- A type that begins with a parenthesis. A bound in parentheses may be the
first one of a list; if it has parentheses of its own, these are written once. -/
def parenthesised (rules : Rules) (many : Bool) : Reader TypeForm := do
  let (inner, tokens) ← apart (within .round (enclosed rules))
  match inner with
  | .other =>
    write tokens
    return .other
  | .optionalBound =>
    write tokens
    return if (← furtherBounds rules) then .other else .bound true
  | .type form =>
    if form == .other || !many || !(← comes (startsMarks "+")) then
      write tokens
      return .other
    else
      write (if form == .bound true then (tokens.drop 1).dropLast else tokens)
      let _ ← furtherBounds rules
      return .other

/-! ## types -/

/-- Whether a path begins here that may stand as a type. -/
def startsTypePath (ts : List Token) : Bool :=
  startsName ts || startsWordOf placeWords ts || startsMarks "::" ts || startsMarks "<" ts

/-- Whether a function pointer begins here. -/
def startsFunctionPointer (ts : List Token) : Bool :=
  startsWordOf ["fn", "unsafe", "extern"] ts

/-- More bounds after the first of a list. Says whether there is a plus sign. -/
def moreBounds (rules : Rules) : Reader Bool :=
  iterate (fun any => do
    if (← comes (startsMarks "+")) then
      take 1
      if (← comes startsBound) then
        let _ ← rules.bound true true
        return (true, true)
      else return (true, false)
    else return (any, false)) false

/-- A type that begins with a path, after the parameters that `bound` are the
tokens of. Something in brackets that stands for a type loses them. -/
def pathType (rules : Rules) (many : Bool) (bound : List Token) : Reader TypeForm := do
  let (form, tokens) ← apart (qualifiedPath rules false)
  let ts ← ahead
  if form.qualified then
    write tokens
    return .other
  else if startsMarks "!" ts && !startsMarks "!=" ts && form.plain then
    write tokens
    take 1
    group
    return .other
  else
    write bound
    write tokens
    if bound.isEmpty && !(many && startsMarks "+" ts) then return .path form.single
    else if !many then return .bound false
    else return if (← moreBounds rules) then .other else .bound false

/-- A slice or an array. -/
def sliceOrArray (rules : Rules) : Reader Unit :=
  within .square do
    let _ ← rules.type true
    if (← comes (startsMarks ";")) then
      take 1
      let _ ← rules.expression true

/-- A type. It may be a list of bounds if `many` holds. -/
def type (rules : Rules) (many : Bool) : Reader TypeForm := do
  let (_, bound) ← apart (readIf (startsWord "for") (binder rules))
  let ts ← ahead
  guard (bound.isEmpty || startsName ts || startsWordOf placeWords ts || startsFunctionPointer ts)
  if startsOpening .round ts then parenthesised rules many
  else if startsFunctionPointer ts then
    write bound
    functionPointer rules
    return .other
  else if startsTypePath ts then pathType rules many bound
  else
    if startsWord "dyn" ts then
      let _ ← asReadIf id do
        take 1
        let star ← comes (startsMarks "*")
        if star then take 1
        bounds rules many false false
        return star
    else if startsOpening .square ts then sliceOrArray rules
    else if startsMarks "*" ts then
      take 1
      takeIf 1 (startsWordOf ["const", "mut"])
      let _ ← rules.type false
    else if startsMarks "&" ts then
      take 1
      readIf startsLifetime (take 2)
      optionalWord "mut"
      let _ ← rules.type false
    else if startsMarks "!" ts || startsWord "_" ts then take 1
    else if startsWord "impl" ts then
      take 1
      bounds rules many true true
    else
      guard (startsLifetime ts)
      bounds rules true false false
    return .other

end Stencil.Codegen.Grammar
