import Stencil.Rendering
import Stencil.Script.Method
import Stencil.Script.Property
import Stencil.Script.Scope
import Stencil.Script.Tree
import Stencil.Text.Html

/-!
# Stencil.Script.Eval

The values of expressions. An expression changes no variable; all that it can
do besides giving a value is to ask for partials. Operands are evaluated from
left to right, with one exception: the key of `target[key]` comes before the
target. `&&`, `||` and the conditional evaluate only what decides their value,
and a call of something that cannot be called does not evaluate its arguments.

A name is looked for among the variables first. After that the name of the data
means the data, and the names of the four functions can be called.
-/

namespace Stencil.Script

/-- What stays the same while a script runs: the data and the name it has. -/
structure Context where
  dataName : String
  data : Json

/-- The functions that every template can call. -/
inductive Function where
  /-- The text of a partial. -/
  | includePartial
  | escapeHtml
  | trimLineEndings
  | trimBlanks
  deriving DecidableEq, Repr

/-- The function of a name. -/
def Function.ofName? (name : String) : Option Function :=
  if name = "include" then some .includePartial
  else if name = "escape_html" then some .escapeHtml
  else if name = "trim_eol" then some .trimLineEndings
  else if name = "trim_whitespace" then some .trimBlanks
  else none

/-- The rendering that fails when it runs. -/
def failWith {α : Type} (cause : RuntimeCause) : Rendering α := .fail (.runtime cause)

/-- A value that is there already, or a failure. -/
def ofResult {α : Type} : Except RuntimeCause α → Rendering α
  | .ok a => .done a
  | .error cause => failWith cause

/-- The text of an argument; one that is not given is empty. -/
def firstText (args : List Json) : String := (args.head?.map display).getD ""

/-- The value of a call of a function. -/
def callFunction (f : Function) (args : List Json) : Rendering Json :=
  match f with
  | .includePartial => do
    let text ← Rendering.includeText (firstText args) (args[1]?.getD .null)
    return .string text
  | .escapeHtml => return .string (Text.escapeHtml (firstText args))
  | .trimLineEndings => return .string (Text.trimLineEndings (firstText args))
  | .trimBlanks => return .string (Text.trimBlanks (firstText args))

/-- The value of a name. -/
def nameValue (ctx : Context) (scopes : Scopes) (name : String) : Except RuntimeCause Json :=
  match scopes.find? name with
  | some value => .ok value
  | none =>
    if name = ctx.dataName then .ok ctx.data
    else if (Function.ofName? name).isSome then .error (.onlyCalled name)
    else .error (.notDefined name)

/-- Whether a name means the data or a variable, so that it cannot be called. -/
def isBound (ctx : Context) (scopes : Scopes) (name : String) : Bool :=
  name == ctx.dataName || (scopes.find? name).isSome

/-- The value of a sign before an operand. -/
def applyUnary (op : UnaryOp) (v : Json) : Json :=
  match op with
  | .not => .bool !truthy v
  | .neg => ofBinary64 (toNumber v).neg
  | .plus => ofBinary64 (toNumber v)

/-- The value of a binary operator whose two operands are evaluated. -/
def applyBinary (op : BinaryOp) (l r : Json) : Json :=
  match op with
  | .add => add l r
  | .sub => subtract l r
  | .mul => ofBinary64 ((toNumber l).mul (toNumber r))
  | .div => ofBinary64 ((toNumber l).div (toNumber r))
  | .rem => ofBinary64 ((toNumber l).rem (toNumber r))
  | .eq => .bool (equals l r)
  | .ne => .bool !equals l r
  | .lt => .bool ((order? l r).any Ordering.isLT)
  | .le => .bool ((order? l r).any Ordering.isLE)
  | .gt => .bool ((order? l r).any Ordering.isGT)
  | .ge => .bool ((order? l r).any Ordering.isGE)
  | .and | .or => r

/-- Whether the left operand decides the value of an operator. -/
def decides (op : BinaryOp) (l : Json) : Bool :=
  match op with
  | .and => !truthy l
  | .or => truthy l
  | _ => false

mutual

/-- The value of an expression. -/
def eval (ctx : Context) (scopes : Scopes) : Expr → Rendering Json
  | .literal value => return value
  | .ident name => ofResult (nameValue ctx scopes name)
  | .array items => do
    let values ← evalItems ctx scopes items
    return .array values
  | .object entries => do
    let fields ← evalEntries ctx scopes entries
    return .ofFields fields
  | .member target name => do
    let parent ← eval ctx scopes target
    ofResult (property parent (.string name))
  | .index target key => do
    let key ← eval ctx scopes key
    let parent ← eval ctx scopes target
    ofResult (property parent key)
  | .call (.ident name) args =>
    if isBound ctx scopes name then failWith .notFunction
    else do
      let values ← evalItems ctx scopes args
      match Function.ofName? name with
      | some f => callFunction f values
      | none => failWith (.notDefined name)
  | .call (.member target name) args => do
    let target ← eval ctx scopes target
    let values ← evalItems ctx scopes args
    ofResult (callMethod target name values)
  | .call _ _ => failWith .notFunction
  | .unary op operand => do
    let v ← eval ctx scopes operand
    return applyUnary op v
  | .binary op left right => do
    let l ← eval ctx scopes left
    if decides op l then return l
    else
      let r ← eval ctx scopes right
      return applyBinary op l r
  | .conditional condition yes no => do
    let c ← eval ctx scopes condition
    if truthy c then eval ctx scopes yes else eval ctx scopes no

/-- The values of expressions, from left to right. -/
def evalItems (ctx : Context) (scopes : Scopes) : List Expr → Rendering (List Json)
  | [] => return []
  | e :: rest => do
    let value ← eval ctx scopes e
    let values ← evalItems ctx scopes rest
    return value :: values

/-- The values of the entries of an object, from left to right. -/
def evalEntries (ctx : Context) (scopes : Scopes) :
    List (String × Expr) → Rendering (List (String × Json))
  | [] => return []
  | (key, e) :: rest => do
    let value ← eval ctx scopes e
    let fields ← evalEntries ctx scopes rest
    return (key, value) :: fields

end

end Stencil.Script
