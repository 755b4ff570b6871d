import Stencil.Codegen.Grammar.Rules

/-!
# Stencil.Codegen.Grammar.Attribute

Attributes: notes in square brackets on what comes after them or, with an
exclamation mark, on the block that they stand in.
-/

namespace Stencil.Codegen.Grammar

/-- Takes a path without arguments. -/
def plainPath : Reader Unit := do
  let ts ← ahead
  match afterPlainPath? ts with
  | some rest => take (ts.length - rest.length)
  | none => failure

/-- The value of an attribute. A constant that ends the attribute is the value;
anything else is an expression, which has no attributes in front. -/
def attributeValue (rules : Rules) : Reader Unit := do
  let ts ← ahead
  let width := if startsMarks "-" ts then 2 else 1
  if startsConstant ts && isEnd (ts.drop width) then take width
  else if startsMarks "#" ts && startsOpening .square (ts.drop 1) then failure
  else
    let _ ← rules.expression true

/-- What stands in the brackets of an attribute: a path, and perhaps brackets
after it or a value. -/
def attributeContent (rules : Rules) : Reader Unit := do
  if (← comes (startsWord "unsafe")) then take 1 else plainPath
  let ts ← ahead
  if startsGroup ts then group
  else if startsMarks "=" ts then
    take 1
    attributeValue rules

/-- Attributes of what follows. -/
def attributes (rules : Rules) : Reader Unit :=
  readWhile (startsMarks "#") do
    take 1
    within .square (attributeContent rules)

/-- Attributes of the block that they stand in. -/
def innerAttributes (rules : Rules) : Reader Unit :=
  readWhile (fun ts => startsMarks "#" ts && startsMarks "!" (ts.drop 1)) do
    take 2
    within .square (attributeContent rules)

/-- A block. It may begin with attributes of its own if `inner` holds. -/
def block (rules : Rules) (inner : Bool) : Reader Unit :=
  within .curly do
    if inner then innerAttributes rules
    rules.statements

end Stencil.Codegen.Grammar
