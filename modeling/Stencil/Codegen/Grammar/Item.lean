import Stencil.Codegen.Grammar.Expression
import Stencil.Codegen.Grammar.Parameters

/-!
# Stencil.Codegen.Grammar.Item

Items: functions, constants, types, traits, implementations, modules, and the
use of names from elsewhere. Each rule says whether the item is written as it
was read, which holds of the forms that are reserved for later.
-/

namespace Stencil.Codegen.Grammar

/-! ## parts of items -/

/-- A name, or the sign for none. -/
def nameOrNone : Reader Unit := takeIf 1 fun ts => startsName ts || startsWord "_" ts

/-- Whether a path begins here as far as items have one. -/
def startsItemPath (ts : List Token) : Bool :=
  startsName ts || startsWordOf ["self", "super", "crate"] ts || startsMarks "::" ts

/-- Something in brackets that stands for items, perhaps with a name if `named`
holds. A semicolon follows unless the brackets are curly. -/
def itemInvocation (named : Bool) : Reader Unit := do
  plainPath
  marks "!"
  readIf (fun ts => named && (startsName ts || startsWord "try" ts)) (take 1)
  let curly ← comes (startsOpening .curly)
  group
  if !curly then marks ";"

/-- Items of a kind in curly brackets. -/
def itemBlock (rules : Rules) (item : Reader Unit) : Reader Unit :=
  within .curly do
    innerAttributes rules
    readWhile (!isEnd ·) item

/-- What a constant is declared with. -/
structure ConstantForm where
  /-- Whether it has neither parameters nor conditions. -/
  plain : Bool
  /-- Whether its value is given. -/
  valued : Bool

/-- A constant. -/
def constantItem (rules : Rules) : Reader ConstantForm := do
  word "const"
  nameOrNone
  let parametric ← parameters rules
  marks ":"
  let _ ← rules.type true
  let valued ← comes (startsMarks "=")
  if valued then
    take 1
    anyExpression rules
  let conditional ← conditions rules
  marks ";"
  return ⟨!parametric && !conditional, valued⟩

/-- What a name for a type is declared with. -/
structure AliasForm where
  /-- Whether it has bounds, or a colon for them. -/
  bounded : Bool
  /-- Whether it is said what it stands for. -/
  defined : Bool

/-- A name for a type. The flags say where conditions may stand: before and
after what it stands for. -/
def aliasItem (rules : Rules) (before after : Bool) : Reader AliasForm := do
  word "type"
  name
  let _ ← parameters rules
  let bounded ← comes (startsMarks ":")
  parameterBounds <| separatedBy "+"
      (fun ts => startsWord "where" ts || startsMarks "=" ts || startsMarks ";" ts) do
    let _ ← rules.bound false true
  let conditional ← if before then conditions rules else pure false
  let defined ← comes (startsMarks "=")
  if defined then
    take 1
    let _ ← rules.type true
  if after && !conditional then
    let _ ← conditions rules
  marks ";"
  return ⟨bounded, defined⟩

/-! ## fields -/

/-- The fields of a structure by their names. A field without a name may be a
structure of its own, which nests as deep as `depth`. -/
def namedFields (rules : Rules) : (depth : Nat) → Reader Unit
  | 0 => failure
  | depth + 1 =>
    within .curly <| list do
      attributes rules
      let _ ← visibility
      let unnamed ← comes (startsWord "_")
      nameOrNone
      marks ":"
      let ts ← ahead
      if unnamed && (startsWord "struct" ts ||
          startsWord "union" ts && startsOpening .curly (ts.drop 1)) then
        asReadIf (fun _ => true) do
          take 1
          namedFields rules depth
      else
        let _ ← rules.type true

/-- The fields of a structure in curly brackets. -/
def curlyFields (rules : Rules) : Reader Unit := do
  namedFields rules ((← ahead).length + 1)

/-- The fields of a structure by their places. -/
def placedFields (rules : Rules) : Reader Unit :=
  within .round <| list do
    attributes rules
    let _ ← visibility
    let _ ← rules.type true

/-- A structure. -/
def structureItem (rules : Rules) : Reader Unit := do
  word "struct"
  name
  let _ ← parameters rules
  let conditional ← conditions rules
  let ts ← ahead
  if !conditional && startsOpening .round ts then
    placedFields rules
    let _ ← conditions rules
    marks ";"
  else if startsOpening .curly ts then curlyFields rules
  else marks ";"

/-- One case of a type, whose visibility is not written. -/
def variant (rules : Rules) : Reader Unit := do
  attributes rules
  let _ ← apart visibility
  name
  let ts ← ahead
  if startsOpening .curly ts then curlyFields rules
  else if startsOpening .round ts then placedFields rules
  if (← comes (startsMarks "=")) then
    take 1
    anyExpression rules

/-- A type given by its cases. -/
def enumerationItem (rules : Rules) : Reader Unit := do
  word "enum"
  name
  let _ ← parameters rules
  let _ ← conditions rules
  within .curly (list (variant rules))

/-- A type whose fields share one place. -/
def unionItem (rules : Rules) : Reader Unit := do
  word "union"
  name
  let _ ← parameters rules
  let _ ← conditions rules
  curlyFields rules

/-! ## names from elsewhere -/

/-- Names that are used. Those in curly brackets may begin with a pair of colons
if `rooted` holds. -/
def useTree : (depth : Nat) → (rooted : Bool) → Reader Unit
  | 0, _ => failure
  | depth + 1, rooted => do
    let ts ← ahead
    if startsMarks "*" ts then take 1
    else if startsOpening .curly ts then
      within .curly <| list do
        let root ← comes fun ts => rooted && startsMarks "::" ts
        if root then take 2
        useTree depth (rooted && !root)
    else
      takeIf 1 fun ts => startsName ts || startsWordOf ["self", "super", "crate", "try"] ts
      if (← comes (startsMarks "::")) then
        take 2
        useTree depth false
      else if (← comes (startsWord "as")) then
        take 1
        nameOrNone

/-- The use of names. -/
def useItem : Reader Unit := do
  word "use"
  let root ← comes (startsMarks "::")
  if root then take 2
  useTree ((← ahead).length + 1) !root
  marks ";"

/-- The use of a library. -/
def libraryItem : Reader Unit := do
  word "extern"
  word "crate"
  if (← comes (startsWord "self")) then take 1 else name
  if (← comes (startsWord "as")) then
    take 1
    nameOrNone
  marks ";"

/-! ## traits -/

/-- An item of a trait. -/
def traitItem (rules : Rules) : Reader Unit := do
  let _ ← asReadIf id do
    attributes rules
    let visible ← visibility
    let default ← comes (startsWord "default")
    if default then take 1
    let ts ← ahead
    if startsSignature false ts then
      let _ ← signature rules false
      if (← comes (startsMarks ";")) then take 1 else block rules true
      return visible || default
    else if startsWord "const" ts then
      let form ← constantItem rules
      return visible || default || !form.plain
    else if startsWord "type" ts then
      let _ ← aliasItem rules false true
      return visible || default
    else
      guard (!visible && !default && startsItemPath ts)
      itemInvocation false
      return false

/-- The rest of a trait after its parameters: the traits that it asks for, its
conditions and its items. -/
def traitRest (rules : Rules) : Reader Unit := do
  parameterBounds <| separatedBy "+"
      (fun ts => startsWord "where" ts || startsOpening .curly ts) do
    let _ ← rules.bound false true
  let _ ← conditions rules
  itemBlock rules (traitItem rules)

/-- A trait, or a name for a list of bounds. -/
def traitOrAlias (rules : Rules) : Reader Unit := do
  let plain ← comes (startsWord "trait")
  optionalWord "unsafe"
  optionalWord "auto"
  word "trait"
  name
  let _ ← parameters rules
  if plain && (← comes (startsMarks "=")) then
    take 1
    separatedBy "+" (fun ts => startsWord "where" ts || startsMarks ";" ts) do
      let _ ← rules.bound false false
    let _ ← conditions rules
    marks ";"
  else traitRest rules

/-! ## implementations -/

/-- An item of an implementation. -/
def implementationItem (rules : Rules) : Reader Unit := do
  let _ ← asReadIf id do
    attributes rules
    let visible ← visibility
    let default ← comes fun ts => startsWord "default" ts && !startsMarks "!" (ts.drop 1)
    if default then take 1
    let ts ← ahead
    if startsSignature false ts then
      let _ ← signature rules false
      if (← comes (startsMarks ";")) then
        take 1
        return true
      else
        block rules true
        return false
    else if startsWord "const" ts then
      let form ← constantItem rules
      return !(form.plain && form.valued)
    else if startsWord "type" ts then
      let form ← aliasItem rules false true
      return form.bounded || !form.defined
    else
      guard (!visible && !default && startsItemPath ts)
      itemInvocation false
      return false

/-- The implementation of a trait for a type, or of a type itself. -/
def implementation (rules : Rules) : Reader Bool := do
  optionalWord "default"
  optionalWord "unsafe"
  word "impl"
  if (← comes startsParameters) then
    let _ ← parameters rules
  let ts ← ahead
  let constant := startsWord "const" ts || startsMarks "?" ts && startsWord "const" (ts.drop 1)
  if constant then
    optionalMarks "?"
    take 1
  let negative ← comes fun ts => startsMarks "!" ts && !startsOpening .curly (ts.drop 1)
  if negative then take 1
  let form ← rules.type true
  let ofTrait ← comes (startsWord "for")
  if ofTrait then
    take 1
    let _ ← rules.type true
  else guard !negative
  let _ ← conditions rules
  itemBlock rules (implementationItem rules)
  return constant || ofTrait && form != .path true && form != .path false

/-! ## foreign items -/

/-- An item that is defined in another language. -/
def foreignItem (rules : Rules) : Reader Unit := do
  let _ ← asReadIf id do
    attributes rules
    let visible ← visibility
    let ts ← ahead
    if startsSignature true ts then
      let safe ← signature rules true
      let defined ← comes (startsOpening .curly)
      if defined then block rules true else marks ";"
      return safe || defined
    else if startsWord "static" ts ||
        startsWordOf ["unsafe", "safe"] ts && startsWord "static" (ts.drop 1) then
      let marked := !startsWord "static" ts
      if marked then take 1
      word "static"
      optionalWord "mut"
      name
      marks ":"
      let _ ← rules.type true
      let valued ← comes (startsMarks "=")
      if valued then
        take 1
        anyExpression rules
      marks ";"
      return marked || valued
    else if startsWord "type" ts then
      let form ← aliasItem rules true true
      return form.bounded || form.defined
    else
      guard (!visible && startsItemPath ts)
      itemInvocation false
      return false

/-- Items that are defined in another language. -/
def foreignItems (rules : Rules) : Reader Unit := do
  optionalWord "unsafe"
  word "extern"
  readIf startsText (take 1)
  itemBlock rules (foreignItem rules)

/-! ## items -/

/-- A module, whose content may be elsewhere. -/
def moduleItem (rules : Rules) : Reader Unit := do
  optionalWord "unsafe"
  word "mod"
  takeIf 1 fun ts => startsName ts || startsWord "try" ts
  if (← comes (startsMarks ";")) then take 1 else itemBlock rules rules.item

/-- A variable that is there all the time. -/
def staticItem (rules : Rules) : Reader Bool := do
  word "static"
  optionalWord "mut"
  name
  let typed ← comes (startsMarks ":")
  if typed then
    take 1
    let _ ← rules.type true
  let valued ← comes (startsMarks "=")
  guard (typed || valued)
  if valued then
    take 1
    anyExpression rules
  marks ";"
  return !(typed && valued)

/-- A function, whose body may be missing. -/
def functionItem (rules : Rules) : Reader Bool := do
  let _ ← signature rules false
  if (← comes (startsMarks ";")) then
    take 1
    return true
  else
    block rules true
    return false

/-- A rule that stands for code, declared by its name. -/
def codeRuleItem : Reader Unit := do
  word "macro"
  name
  readIf (startsOpening .round) group
  guard (← comes (startsOpening .curly))
  group

/-- An item without the attributes before it. -/
def item (rules : Rules) : Reader Bool := do
  let visible ← visibility
  let ts ← ahead
  let next := ts.drop 1
  let auto := startsWord "auto" ts && startsWord "trait" next
  let bare := if startsWord "unsafe" ts then next else ts
  if startsSignature false ts then functionItem rules
  else if startsWord "static" ts then staticItem rules
  else if startsWord "const" ts then
    let form ← constantItem rules
    return !(form.plain && form.valued)
  else if startsWord "impl" bare ||
      startsWord "default" ts && !startsMarks "!" next then
    let asRead ← implementation rules
    return asRead || visible
  else if startsWord "type" ts then
    let form ← aliasItem rules true false
    return form.bounded || !form.defined
  else if startsWord "macro" ts then
    codeRuleItem
    return true
  else
    if startsWord "extern" ts && startsWord "crate" next then libraryItem
    else if startsWord "extern" bare then
      guard !visible
      foreignItems rules
    else if startsWord "use" ts then useItem
    else if startsWord "mod" bare then moduleItem rules
    else if startsWord "struct" ts then structureItem rules
    else if startsWord "enum" ts then enumerationItem rules
    else if startsWord "union" ts && startsName next then unionItem rules
    else if startsWord "trait" bare || auto ||
        startsWord "auto" bare && startsWord "trait" (bare.drop 1) then traitOrAlias rules
    else
      guard (!visible && startsItemPath ts)
      itemInvocation true
    return false

/-- An item with its attributes. -/
def attributedItem (rules : Rules) : Reader Unit := do
  let _ ← asReadIf id do
    attributes rules
    item rules

end Stencil.Codegen.Grammar
