import Stencil.Codegen.Grammar.Bound
import Stencil.Text.Hex

/-!
# Stencil.Codegen.Grammar.Pattern

Patterns: a name, a constant or a range of them, a path with fields, a tuple, a
slice, a reference, or something in brackets that stands for a pattern.
-/

namespace Stencil.Codegen.Grammar

/-! ## members -/

/-- The number that a literal writes as the place of a field: an integer without
a suffix. -/
def fieldIndex? (text : String) : Option Nat :=
  let (base, digits) :=
    match text.toList with
    | '0' :: 'x' :: rest => (16, rest)
    | '0' :: 'o' :: rest => (8, rest)
    | '0' :: 'b' :: rest => (2, rest)
    | cs => (10, cs)
  let digits := digits.filter (· != '_')
  let values := digits.filterMap Text.hexValue?
  if isNumber text && !digits.isEmpty && values.length == digits.length &&
      values.all (· < base) then
    let n := values.foldl (fun n d => n * base + d) 0
    if n < Nat.pow 2 32 then some n else none
  else none

/-- The token that writes the place of a field. -/
def fieldToken (n : Nat) : Token := .literal (toString n)

/-- The name or the place of a field. Says whether it is a name. -/
def member : Reader Bool := do
  match (← ahead) with
  | .literal text :: _ =>
    match fieldIndex? text with
    | some n =>
      let _ ← apart (take 1)
      write [fieldToken n]
      return false
    | none => failure
  | _ =>
    name
    return true

/-! ## ranges -/

/-- The end of a range, if there is one: a constant, a path, or a block of
constant code. Says whether there is one. -/
def rangeBound (rules : Rules) : Reader Bool := do
  let ts ← ahead
  if isEnd ts || ["|", "=", ",", ";"].any (startsMarks · ts) || startsWord "if" ts ||
      startsMarks ":" ts && !startsMarks "::" ts then
    return false
  if startsConstant ts then constant
  else if startsWord "const" ts then
    take 1
    block rules true
  else
    guard (!startsWord "try" ts)
    let _ ← qualifiedPath rules true
  return true

/-- The points of a range and its end. Three points are written like two and a
sign of equality, where the end has to be given. -/
def rangeEnd (rules : Rules) : Reader PatternForm := do
  let ts ← ahead
  let closed := startsMarks "..=" ts || startsMarks "..." ts
  if startsMarks "..." ts then
    let _ ← apart (take 3)
    write [.mark '.' true, .mark '.' true, .mark '=' false]
  else if closed then take 3
  else marks ".."
  let ended ← rangeBound rules
  guard (ended || !closed)
  return if ended then .other else .openRange

/-! ## patterns -/

/-- A pattern with alternatives, perhaps with a bar before the first one. -/
def alternatives (rules : Rules) : Reader PatternForm := do
  let startsBar (ts : List Token) :=
    startsMarks "|" ts && !startsMarks "||" ts && !startsMarks "|=" ts
  let leading ← comes (startsMarks "|")
  if leading then take 1
  let form ← rules.pattern
  let several ← comes startsBar
  readWhile startsBar do
    take 1
    let _ ← rules.pattern
  return if leading || several then .other else form

/-- A field of a structure. It has a pattern of its own, or is a name perhaps
with marks before it. -/
def fieldPattern (rules : Rules) : Reader Unit := do
  let marked ← comes (startsWordOf ["box", "ref", "mut"])
  optionalWord "box"
  optionalWord "ref"
  optionalWord "mut"
  if marked then name
  else
    let named ← member
    if !named || (← comes (startsMarks ":")) then
      marks ":"
      let _ ← alternatives rules

/-- The fields of a structure, perhaps with points for the rest. -/
def fieldPatterns (rules : Rules) : Reader Unit :=
  repeatedly do
    if (← comes isEnd) then return false
    attributes rules
    if (← comes (startsMarks "..")) then
      take 2
      return false
    fieldPattern rules
    if (← comes isEnd) then return false
    marks ","
    return true

/-- A pattern that begins with a path. -/
def pathPattern (rules : Rules) : Reader PatternForm := do
  let form ← qualifiedPath rules true
  let ts ← ahead
  if !form.qualified && form.plain && startsMarks "!" ts && !startsMarks "!=" ts then
    take 1
    group
    return .other
  else if startsOpening .curly ts then
    within .curly (fieldPatterns rules)
    return .other
  else if startsOpening .round ts then
    within .round <| list do
      let _ ← alternatives rules
    return .other
  else if startsMarks ".." ts then rangeEnd rules
  else return .other

/-- A name, perhaps with marks before it and a pattern after it. -/
def namePattern (rules : Rules) : Reader Unit := do
  optionalWord "ref"
  optionalWord "mut"
  if (← comes (startsWord "self")) then take 1 else name
  if (← comes (startsMarks "@")) then
    take 1
    let _ ← rules.pattern

/-- Whether a pattern that begins here begins with a path. -/
def startsPathPattern (ts : List Token) : Bool :=
  let next := ts.drop 1
  startsName ts && (startsMarks "::" next || startsMarks "!" next || startsMarks ".." next ||
      startsOpening .curly next || startsOpening .round next) ||
    startsWord "self" ts && startsMarks "::" next ||
    startsMarks "::" ts || startsMarks "<" ts || startsWordOf ["Self", "super", "crate"] ts

/-- A pattern without alternatives. -/
def pattern (rules : Rules) : Reader PatternForm := do
  let ts ← ahead
  if startsPathPattern ts then pathPattern rules
  else if startsWord "_" ts then
    take 1
    return .other
  else if startsWord "box" ts then
    asReadIf (fun _ => true) do
      take 1
      let _ ← rules.pattern
      return .other
  else if startsMarks "-" ts || startsConstant ts || startsWord "const" ts then
    guard (← rangeBound rules)
    if (← comes (startsMarks "..")) then rangeEnd rules else return .other
  else if startsWordOf ["ref", "mut", "self"] ts || startsName ts then
    namePattern rules
    return .other
  else if startsMarks "&" ts then
    take 1
    optionalWord "mut"
    let _ ← rules.pattern
    return .other
  else if startsOpening .round ts then
    within .round <| list do
      let _ ← alternatives rules
    return .other
  else if startsOpening .square ts then
    within .square <| list do
      guard ((← alternatives rules) != .openRange)
    return .other
  else
    guard (startsMarks ".." ts && !startsMarks "..." ts)
    let form ← rangeEnd rules
    return if form == .openRange then .rest else .openRange

end Stencil.Codegen.Grammar
