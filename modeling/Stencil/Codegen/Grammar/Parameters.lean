import Stencil.Codegen.Grammar.Bound

/-!
# Stencil.Codegen.Grammar.Parameters

What items are declared with: who may use them, parameters in angle brackets,
conditions on these, and the signature of a function. Parameters are written
with the lifetimes first. Empty angle brackets, and a `where` without
conditions, are not written.
-/

namespace Stencil.Codegen.Grammar

/-! ## visibility -/

/-- Who may use an item, if it says so. Parentheses after `pub` belong to it if
they hold a place and nothing else, or a path after `in`. -/
def visibility : Reader Bool := do
  if !(← comes (startsWord "pub")) then return false
  take 1
  let ts ← ahead
  let inner := ts.drop 1
  if startsOpening .round ts then
    if startsWordOf ["crate", "self", "super"] inner && isEnd (inner.drop 1) then take 3
    else if startsWord "in" inner then
      within .round do
        take 1
        plainPath
  return true

/-! ## parameters -/

/-- Parameters in angle brackets, if there are any. Says whether there are
brackets. -/
def parameters (rules : Rules) : Reader Bool := do
  if !(← comes (startsMarks "<")) then return false
  let (count, tokens) ← apart <| angled do
    attributes rules
    if (← comes (startsWord "_")) then
      take 1
      return false
    else parameter rules
  if count ≠ 0 then write tokens
  return true

/-- Whether angle brackets with parameters come next, and not a type that a path
belongs to. -/
def startsParameters (ts : List Token) : Bool :=
  let next := ts.drop 1
  let third := afterFirst next
  startsMarks "<" ts &&
    (startsMarks ">" next || startsMarks "#" next || startsWord "const" next ||
      (startsLifetime next || startsName next) &&
        (startsMarks ">" third || startsMarks "," third || startsMarks "=" third ||
          startsMarks ":" third && !startsMarks "::" third))

/-! ## conditions -/

/-- Whether a condition ends here. -/
def isConditionEnd (ts : List Token) : Bool :=
  isEnd ts || startsOpening .curly ts || startsMarks "," ts || startsMarks ";" ts ||
    startsMarks ":" ts && !startsMarks "::" ts || startsMarks "=" ts

/-- A condition on a lifetime or a type: its bounds. -/
def condition (rules : Rules) : Reader Unit := do
  let ts ← ahead
  if startsLifetime ts && startsMarks ":" (ts.drop 2) then
    take 3
    separatedBy "+" (fun ts => isConditionEnd ts || startsMarks ":" ts) lifetime
  else
    readIf (startsWord "for") (binder rules)
    let _ ← rules.type true
    marks ":"
    boundsUpTo rules isConditionEnd

/-- Conditions with commas between them, if there are any. Says whether the word
for them is there. -/
def conditions (rules : Rules) : Reader Bool := do
  if !(← comes (startsWord "where")) then return false
  let (_, first) ← apart (take 1)
  guard !(← comes startsParameters)
  let (_, tokens) ← apart <| repeatedly do
    if (← comes isConditionEnd) then return false
    condition rules
    if (← comes (startsMarks ",")) then
      take 1
      return true
    else return false
  if !tokens.isEmpty then
    write first
    write tokens
  return true

/-! ## signatures -/

/-- What follows a word that may be missing. -/
def afterOptional (text : String) (ts : List Token) : List Token :=
  if startsWord text ts then ts.drop 1 else ts

/-- Whether the signature of a function comes next. It may be declared safe if
`maySafe` holds. -/
def startsSignature (maySafe : Bool) (ts : List Token) : Bool :=
  let ts := afterOptional "async" (afterOptional "const" ts)
  let ts := if maySafe && startsWord "safe" ts then ts.drop 1 else afterOptional "unsafe" ts
  let ts :=
    if startsWord "extern" ts then (if startsText (ts.drop 1) then ts.drop 2 else ts.drop 1)
    else ts
  startsWord "fn" ts

/-- What a parameter of a function is. -/
inductive ParameterForm where
  /-- The value that a method belongs to. -/
  | receiver
  | typed
  /-- Any number of parameters. -/
  | variadic
  deriving DecidableEq, Repr

/-- The value that a method belongs to. It has no type after a reference. -/
def receiver (rules : Rules) : Reader Unit := do
  let reference ← comes (startsMarks "&")
  if reference then
    take 1
    readIf startsLifetime (take 2)
  optionalWord "mut"
  word "self"
  if !reference && (← comes (startsMarks ":")) then
    take 1
    let _ ← rules.type true

/-- A parameter of a function other than a receiver. A type with arguments may
stand alone, and is written with a pattern for any value. -/
def typedParameter (rules : Rules) : Reader ParameterForm := do
  let ts ← ahead
  if startsName ts && startsMarks "<" (ts.drop 1) then
    write [.word "_", .mark ':' false]
    let _ ← rules.type true
    return .typed
  let _ ← rules.pattern
  marks ":"
  if (← comes (startsMarks "...")) then
    take 3
    return .variadic
  let _ ← rules.type true
  return .typed

/-- A parameter of a function. What can be read as a receiver is one. -/
def functionParameter (rules : Rules) : Reader ParameterForm := do
  if (← comes (startsMarks "...")) then
    take 3
    return .variadic
  else
    (do
      receiver rules
      return .receiver) <|> typedParameter rules

/-- The parameters of a function. Only the first one may be a receiver, and
after any number of parameters there is no other. -/
def functionParameters (rules : Rules) : Reader Unit := do
  let _ ← iterate (fun first => do
    if (← comes isEnd) then return (first, false)
    attributes rules
    let form ← functionParameter rules
    guard (first || form != .receiver)
    if (← comes isEnd) then return (first, false)
    marks ","
    return (false, form != .variadic)) true

/-- The signature of a function. Says whether it is declared safe. -/
def signature (rules : Rules) (maySafe : Bool) : Reader Bool := do
  optionalWord "const"
  optionalWord "async"
  let guarded ← comes (startsWord "unsafe")
  if guarded then take 1
  let safe ← comes fun ts => maySafe && !guarded && startsWord "safe" ts
  if safe then take 1
  if (← comes (startsWord "extern")) then
    take 1
    readIf startsText (take 1)
  word "fn"
  name
  let _ ← parameters rules
  within .round (functionParameters rules)
  result rules true
  let _ ← conditions rules
  return safe

end Stencil.Codegen.Grammar
