import Stencil.Template.Delimiters
import Stencil.Template.Segment
import Stencil.Text.Find
import Stencil.Text.Utf8

/-!
# Stencil.Template.Scan

Cutting a template into segments. The work is done on octets:

1. a marker opens at the next occurrence of the opening delimiter;
2. it closes with the closing delimiter, found by a machine that takes one
   octet at a time and has three states: outside quotes, with the part of the
   delimiter that is still to come; between quotes; and after a backslash
   between quotes, which hides the next octet. An octet that does not go on
   with the delimiter sends the machine back to the whole of it and is not
   looked at again;
3. if an opening is not closed, the rest of the template is text.

`pieces` cuts the octets, and `segments` reads the pieces as texts and
classifies the markers. A mark of byte order at the front is left out.
-/

namespace Stencil.Scan

open Text

/-! ## closing a marker -/

/-- The octets of the three quotes: `"`, the apostrophe and the backquote. -/
def isQuote (b : UInt8) : Bool := b == 0x22 || b == 0x27 || b == 0x60

/-- The octet of the backslash. -/
def backslash : UInt8 := 0x5C

/-- Where the search for the closing delimiter stands. -/
inductive State where
  /-- Outside quotes; `left` is what is still to come of the delimiter. -/
  | outside (left : List UInt8)
  /-- Between two octets `quote`. -/
  | quoted (quote : UInt8)
  /-- Between two octets `quote`, after a backslash. -/
  | hidden (quote : UInt8)
  deriving DecidableEq, Repr

/-- The state after an octet; nothing where the delimiter is complete. -/
def step (closing : List UInt8) : State → UInt8 → Option State
  | .hidden quote, _ => some (.quoted quote)
  | .quoted quote, b =>
    if b == backslash then some (.hidden quote)
    else if b == quote then some (.outside closing)
    else some (.quoted quote)
  | .outside left, b =>
    if isQuote b then some (.quoted b)
    else
      match left with
      | [] => some (.outside closing)
      | next :: left =>
        if b != next then some (.outside closing)
        else if left.isEmpty then none
        else some (.outside left)

/-- The number of octets up to and with the closing delimiter. -/
def closedAfter? (closing : List UInt8) : State → List UInt8 → Option Nat
  | _, [] => none
  | state, b :: bs =>
    match step closing state b with
    | none => some 1
    | some state => (closedAfter? closing state bs).map (· + 1)

theorem closedAfter?_bounds {closing bs : List UInt8} {state : State} {n : Nat}
    (h : closedAfter? closing state bs = some n) : 0 < n ∧ n ≤ bs.length := by
  induction bs generalizing state n with
  | nil => simp [closedAfter?] at h
  | cons b bs ih =>
    simp only [closedAfter?] at h
    split at h
    · simp only [Option.some.injEq] at h
      subst h
      simp
    · obtain ⟨m, hm, rfl⟩ := Option.map_eq_some_iff.1 h
      have := ih hm
      simp only [List.length_cons]
      omega

/-! ## pieces -/

/-- A run of octets of a template: text, or what stands between the delimiters
of a marker. -/
inductive Piece where
  | text (octets : List UInt8)
  | marker (inner : List UInt8)
  deriving DecidableEq, Repr

/-- Octets as a piece of text, unless there are none. -/
def textPiece (octets : List UInt8) : List Piece :=
  if octets.isEmpty then [] else [.text octets]

theorem length_drop_lt {opening closing bs before rest : List UInt8} {state : State} {n : Nat}
    (ho : cutAt? opening bs = some (before, rest)) (hc : closedAfter? closing state rest = some n) :
    (rest.drop n).length < bs.length := by
  have h := congrArg List.length (eq_append_of_cutAt? ho)
  have hn := closedAfter?_bounds hc
  simp only [List.length_append] at h
  simp only [List.length_drop]
  omega

/-- The pieces of the octets of a template. -/
def pieces (opening closing : List UInt8) (bs : List UInt8) : List Piece :=
  match _ho : cutAt? opening bs with
  | none => textPiece bs
  | some (before, rest) =>
    match _hc : closedAfter? closing (.outside closing) rest with
    | none => textPiece bs
    | some n =>
      textPiece before ++
        .marker (rest.take (n - closing.length)) :: pieces opening closing (rest.drop n)
termination_by bs.length
decreasing_by exact length_drop_lt _ho _hc

/-! ## markers -/

/-- The content of a marker without the sign of its trim at the end, and the
trim. A sign needs an octet before it. -/
def cutTrim (inner : List UInt8) : List UInt8 × Trim :=
  match inner.reverse with
  | 0x3E :: 0x3E :: b :: rest => ((b :: rest).reverse, .blanks)
  | 0x3E :: b :: rest => ((b :: rest).reverse, .lineEndings)
  | _ => (inner, .none)

/-- The content of a marker without the sign of its kind at the front, and the
kind. A sign needs an octet after it. -/
def cutKind (body : List UInt8) : List UInt8 × MarkerKind :=
  match body with
  | 0x2D :: b :: rest => (b :: rest, .raw)
  | 0x3D :: b :: rest => (b :: rest, .escaped)
  | _ => (body, .code)

/-- The text of octets that were cut from a template between two of its
characters. -/
def textOf (octets : List UInt8) : String := (ofUtf8? octets).getD ""

/-- The marker with the given first offset and the given octets between its
delimiters. -/
def markerAt (delimiters : Delimiters) (start : Nat) (inner : List UInt8) : Marker :=
  let (body, trim) := cutTrim inner
  let (content, kind) := cutKind body
  { start
    stop := start + (utf8 delimiters.opening).length + inner.length +
      (utf8 delimiters.closing).length
    content := textOf content
    kind
    trim := if kind = .code then .none else trim }

/-! ## segments -/

/-- The segments that pieces are, the first beginning at offset `start`. -/
def segmentsFrom (delimiters : Delimiters) (start : Nat) : List Piece → List Segment
  | [] => []
  | .text octets :: rest =>
    .text (textOf octets) :: segmentsFrom delimiters (start + octets.length) rest
  | .marker inner :: rest =>
    let m := markerAt delimiters start inner
    .marker m :: segmentsFrom delimiters m.stop rest

/-- The mark of byte order. -/
def byteOrderMark : List UInt8 := [0xEF, 0xBB, 0xBF]

/-- The octets of a template without a mark of byte order at the front, and the
offset of the first of them. -/
def body (source : String) : Nat × List UInt8 :=
  match afterPrefix? byteOrderMark (utf8 source) with
  | some rest => (byteOrderMark.length, rest)
  | none => (0, utf8 source)

/-- The segments of a template. -/
def segments (delimiters : Delimiters) (source : String) : List Segment :=
  let (start, octets) := body source
  segmentsFrom delimiters start
    (pieces (utf8 delimiters.opening) (utf8 delimiters.closing) octets)

end Stencil.Scan
