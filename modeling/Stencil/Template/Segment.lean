/-!
# Stencil.Template.Segment

The segments of a template: plain text and markers. A marker is code, or the
expression of a value, which is written as it is or escaped for HTML, and which
may be trimmed first.
-/

namespace Stencil

/-- What is removed from both ends of a value before it is written. -/
inductive Trim where
  | none
  /-- Line endings. -/
  | lineEndings
  /-- Blanks of every kind. -/
  | blanks
  deriving DecidableEq, Repr

/-- What a marker does with its content. -/
inductive MarkerKind where
  /-- It is run and writes nothing. -/
  | code
  /-- Its value is written as it is. -/
  | raw
  /-- Its value is written with the special characters of HTML escaped. -/
  | escaped
  deriving DecidableEq, Repr

/-- A marker of a template: the offsets, in octets, of its first octet and of
the octet after its last one, and the content without the sign of its kind and
without the sign of its trim. -/
structure Marker where
  start : Nat
  stop : Nat
  content : String
  kind : MarkerKind
  /-- Always `Trim.none` for code. -/
  trim : Trim
  deriving DecidableEq, Repr

/-- A segment of a template. -/
inductive Segment where
  | text (s : String)
  | marker (m : Marker)
  deriving DecidableEq, Repr

end Stencil
