import Mathlib.Data.List.Chain
import Mathlib.Data.List.Infix
import Stencil.Proofs.Template.Scanned

/-!
# Stencil.Proofs.Template.Printing

Programs written as templates, and read back. A text is printed as it is; any
other node is printed as a marker, its content with the signs of its kind and of
its trim between the delimiters.

Not every program is read back: two texts that follow each other become one, a
text may hold an opening delimiter, and the end of a content may look like a sign
or like the front of the closing delimiter. `Printable` lists what is asked of a
program, node by node:

1. its marker ends where it is printed to end (`Node.Closed`), since the machine
   finds no closing delimiter before (`closedAfter?_of_inner`);
2. its content has no octet at its ends that is taken for a sign
   (`Node.Signed`, `ofMarker_markerAt`);
3. a text ends where the next marker begins (`Node.Follows`).

`build?_print` puts them together by induction on the program.
-/

namespace Stencil

open Quotation (BareAt)
open Scan
open Text

/-! ## printing -/

/-- The sign of a trim at the end of a marker. -/
def Trim.sign : Trim → String
  | .none => ""
  | .lineEndings => ">"
  | .blanks => ">>"

namespace Node

/-- What stands between the delimiters of a marker. -/
def inner : Node → String
  | .literal text => text
  | .value expr escape trim => (if escape then "=" else "-") ++ expr ++ trim.sign
  | .code text => text

/-- A node as a part of a template. -/
def print (d : Delimiters) : Node → String
  | .literal text => text
  | node => d.opening ++ node.inner ++ d.closing

end Node

/-- A program as a template. -/
def Program.print (d : Delimiters) (program : Program) : String :=
  String.join (program.map (Node.print d))

/-! ## programs that are read back -/

namespace Node

/-- The octets between the delimiters of a marker are outside of regions at their
end, hold no bare occurrence of the closing delimiter, and do not end in an octet
of it. -/
structure Closed (d : Delimiters) (node : Node) : Prop where
  outside : Quotation.after (utf8 node.inner) = .outside
  unspelled : ∀ i, ¬ BareAt (utf8 d.closing) (utf8 node.inner) i
  last : ∀ b, (utf8 node.inner).getLast? = some b → b ∉ utf8 d.closing

/-- The content of a node is told from the signs around it. -/
def Signed : Node → Prop
  | .literal text => text ≠ ""
  | .value expr _ trim => expr ≠ "" ∧ (trim ≠ .blanks → (utf8 expr).getLast? ≠ some 0x3E)
  | .code text => 2 ≤ (utf8 text).length →
    (utf8 text).head? ≠ some 0x2D ∧ (utf8 text).head? ≠ some 0x3D ∧
      (utf8 text).getLast? ≠ some 0x3E

/-- A node can be followed by another one: a text only by a marker, whose opening
delimiter is the first one from the front of the text. -/
def Follows (d : Delimiters) : Node → Node → Prop
  | .literal _, .literal _ => False
  | .literal t, _ => FirstAt (utf8 d.opening) (utf8 t ++ utf8 d.opening) (utf8 t).length
  | _, _ => True

instance (d : Delimiters) (node : Node) : Decidable (node.Closed d) :=
  decidable_of_iff
    (Quotation.after (utf8 node.inner) = .outside ∧
      (∀ i, ¬ BareAt (utf8 d.closing) (utf8 node.inner) i) ∧
      (utf8 node.inner).getLast?.all (fun b => !(utf8 d.closing).contains b) = true)
    ⟨fun h => ⟨h.1, h.2.1, by simpa [Option.all_eq_true] using h.2.2⟩,
      fun h => ⟨h.outside, h.unspelled, by simpa [Option.all_eq_true] using h.last⟩⟩

instance : DecidablePred Signed
  | .literal text => inferInstanceAs (Decidable (text ≠ ""))
  | .value expr _ trim =>
    inferInstanceAs (Decidable (expr ≠ "" ∧ (trim ≠ .blanks → (utf8 expr).getLast? ≠ some 0x3E)))
  | .code text =>
    inferInstanceAs (Decidable (2 ≤ (utf8 text).length →
      (utf8 text).head? ≠ some 0x2D ∧ (utf8 text).head? ≠ some 0x3D ∧
        (utf8 text).getLast? ≠ some 0x3E))

instance (d : Delimiters) : DecidableRel (Follows d)
  | .literal _, .literal _ => .isFalse id
  | .literal t, .value .. =>
    inferInstanceAs (Decidable (FirstAt (utf8 d.opening) (utf8 t ++ utf8 d.opening) _))
  | .literal t, .code _ =>
    inferInstanceAs (Decidable (FirstAt (utf8 d.opening) (utf8 t ++ utf8 d.opening) _))
  | .value .., _ => .isTrue trivial
  | .code _, _ => .isTrue trivial

end Node

/-- The nodes of a program are told from each other where they are printed. -/
structure Readable (d : Delimiters) (program : Program) : Prop where
  closed : ∀ node ∈ program, node.isMarker → node.Closed d
  signed : ∀ node ∈ program, node.Signed
  follows : program.IsChain (Node.Follows d)
  final : ∀ t, program.getLast? = some (.literal t) → ¬ utf8 d.opening <:+: utf8 t

/-- A program that is read back from the template that it is printed as. -/
structure Printable (d : Delimiters) (program : Program) : Prop extends Readable d program where
  unquoted : ∀ b ∈ utf8 d.closing, isQuote b = false
  marked : ∃ node ∈ program, node.isMarker
  front : (program.print d).toList.head? ≠ some '\uFEFF'

/-! ## signs -/

theorem cutTrim_append_sign {content : List UInt8} {trim : Trim} (hne : content ≠ [])
    (hlast : trim ≠ .blanks → content.getLast? ≠ some 0x3E) :
    cutTrim (content ++ utf8 trim.sign) = (content, trim) := by
  obtain ⟨front, b, rfl⟩ : ∃ front b, content = front ++ [b] :=
    ⟨_, _, (List.dropLast_append_getLast hne).symm⟩
  rw [List.getLast?_concat] at hlast
  have hnone : utf8 Trim.none.sign = [] := by decide
  have hlines : utf8 Trim.lineEndings.sign = [0x3E] := by decide
  have hblanks : utf8 Trim.blanks.sign = [0x3E, 0x3E] := by decide
  cases trim with
  | none =>
    have hb : b ≠ 0x3E := fun h => hlast (by decide) (congrArg some h)
    simp [cutTrim, hnone, hb]
  | lineEndings =>
    have hb : b ≠ 0x3E := fun h => hlast (by decide) (congrArg some h)
    simp [cutTrim, hlines, hb]
  | blanks => simp [cutTrim, hblanks]

theorem cutTrim_eq_self {inner : List UInt8}
    (h : 2 ≤ inner.length → inner.getLast? ≠ some 0x3E) : cutTrim inner = (inner, .none) := by
  rcases List.eq_nil_or_concat' inner with rfl | ⟨front, b, rfl⟩
  · rfl
  · by_cases hfront : front = []
    · subst hfront
      simp [cutTrim]
    · have hlen : 2 ≤ (front ++ [b]).length := by
        have hpos := List.length_pos_iff.2 hfront
        rw [List.length_append, List.length_singleton]
        omega
      have hb : b ≠ 0x3E := fun hb => h hlen (by rw [List.getLast?_concat, hb])
      simp [cutTrim, hb]

theorem cutKind_eq_self {body : List UInt8}
    (h : 2 ≤ body.length → body.head? ≠ some 0x2D ∧ body.head? ≠ some 0x3D) :
    cutKind body = (body, .code) := by
  rcases body with _ | ⟨b, _ | ⟨c, rest⟩⟩
  · rfl
  · simp [cutKind]
  · obtain ⟨hdash, hequals⟩ := h (by simp)
    have hb : b ≠ 0x2D := fun hb => hdash (by rw [List.head?_cons, hb])
    have hb' : b ≠ 0x3D := fun hb => hequals (by rw [List.head?_cons, hb])
    simp [cutKind, hb, hb']

/-- The sign of the kind of a value. -/
theorem cutKind_cons {content : List UInt8} (hne : content ≠ []) (escape : Bool) :
    cutKind (utf8 (if escape then "=" else "-") ++ content) =
      (content, if escape then .escaped else .raw) := by
  have hequals : utf8 "=" = [0x3D] := by decide
  have hdash : utf8 "-" = [0x2D] := by decide
  cases content with
  | nil => contradiction
  | cons b rest =>
    cases escape with
    | true => simp [cutKind, hequals]
    | false => simp [cutKind, hdash]

theorem ofMarker_of_cuts (d : Delimiters) (start : Nat) {inner body content : List UInt8}
    {trim : Trim} {kind : MarkerKind} (htrim : cutTrim inner = (body, trim))
    (hkind : cutKind body = (content, kind)) :
    Node.ofMarker (markerAt d start inner) =
      match kind with
      | .code => .code (textOf content)
      | .raw => .value (textOf content) false trim
      | .escaped => .value (textOf content) true trim := by
  cases kind <;> simp [Node.ofMarker, markerAt, htrim, hkind]

/-- A marker is read as the node that it was printed for. -/
theorem ofMarker_markerAt (d : Delimiters) (start : Nat) {node : Node} (hm : node.isMarker)
    (hs : node.Signed) : Node.ofMarker (markerAt d start (utf8 node.inner)) = node := by
  cases node with
  | literal text => cases hm
  | value expr escape trim =>
    obtain ⟨hne, hlast⟩ := hs
    have hexpr : utf8 expr ≠ [] := fun h => hne (utf8_eq_nil_iff.1 h)
    have htrim : cutTrim (utf8 (Node.inner (.value expr escape trim))) =
        (utf8 (if escape then "=" else "-") ++ utf8 expr, trim) := by
      rw [Node.inner, utf8_append, utf8_append]
      refine cutTrim_append_sign (by simp [hexpr]) ?_
      rwa [List.getLast?_append_of_ne_nil _ hexpr]
    rw [ofMarker_of_cuts d start htrim (cutKind_cons hexpr escape), textOf_utf8]
    cases escape <;> rfl
  | code text =>
    have htrim : cutTrim (utf8 text) = (utf8 text, .none) :=
      cutTrim_eq_self fun hlen => (hs hlen).2.2
    have hkind : cutKind (utf8 text) = (utf8 text, .code) :=
      cutKind_eq_self fun hlen => ⟨(hs hlen).1, (hs hlen).2.1⟩
    rw [Node.inner, ofMarker_of_cuts d start htrim hkind, textOf_utf8]

/-! ## reading back -/

theorem Readable.of_append {d : Delimiters} {front rest : Program}
    (h : Readable d (front ++ rest)) : Readable d rest where
  closed node hn := h.closed node (List.mem_append_right front hn)
  signed node hn := h.signed node (List.mem_append_right front hn)
  follows := h.follows.right_of_append
  final t ht := h.final t (by rw [List.getLast?_append, ht]; rfl)

theorem Program.print_cons (d : Delimiters) (node : Node) (rest : Program) :
    Program.print d (node :: rest) = node.print d ++ Program.print d rest := by
  simp [Program.print]

theorem Node.print_of_isMarker (d : Delimiters) {node : Node} (hm : node.isMarker) :
    node.print d = d.opening ++ node.inner ++ d.closing := by
  cases node with
  | literal text => cases hm
  | value expr escape trim => rfl
  | code text => rfl

/-- A text as a node, unless it is empty. -/
def textNode (t : String) : Program := if t = "" then [] else [.literal t]

theorem map_textSegment (t : String) : (textSegment t).map Node.ofSegment = textNode t := by
  unfold textSegment textNode
  split <;> rfl

/-- The first opening delimiter after a text in front of a marker is that of the
marker. -/
theorem Readable.firstAt {d : Delimiters} {t : String} {node : Node} {rest : Program}
    (h : Readable d (textNode t ++ node :: rest)) (hm : node.isMarker) :
    FirstAt (utf8 d.opening) (utf8 t ++ utf8 d.opening) (utf8 t).length := by
  by_cases ht : t = ""
  · subst ht
    exact firstAt_zero_iff.2 (List.prefix_refl _)
  · rw [textNode, if_neg ht] at h
    have hfollows := (List.isChain_cons_cons.1 h.follows).1
    cases node with
    | literal text => cases hm
    | value expr escape trim => exact hfollows
    | code text => exact hfollows

/-- The last text of a program opens no marker. -/
theorem Readable.unmarked {d : Delimiters} {t : String} (h : Readable d (textNode t)) :
    Unmarked d (utf8 t) := by
  left
  by_cases ht : t = ""
  · subst ht
    exact fun hin => utf8_opening_ne d (List.infix_nil.1 hin)
  · rw [textNode, if_neg ht] at h
    exact h.final t rfl

/-- A marker that is printed is read back, and reading goes on after it. -/
theorem nodes_print_marker (d : Delimiters) (start : Nat) (t : String) {node : Node}
    (tail : List UInt8) (hunquoted : ∀ b ∈ utf8 d.closing, isQuote b = false)
    (hm : node.isMarker) (hclosed : node.Closed d) (hsigned : node.Signed)
    (hfirst : FirstAt (utf8 d.opening) (utf8 t ++ utf8 d.opening) (utf8 t).length) :
    (segmentsFrom d start (pieces (utf8 d.opening) (utf8 d.closing)
        (utf8 t ++ (utf8 (node.print d) ++ tail)))).map Node.ofSegment =
      textNode t ++ node ::
        (segmentsFrom d (markerAt d (start + (utf8 t).length) (utf8 node.inner)).stop
          (pieces (utf8 d.opening) (utf8 d.closing) tail)).map Node.ofSegment := by
  have hend := closedAfter?_of_inner (utf8_closing_ne d) hunquoted hclosed.outside
    hclosed.unspelled hclosed.last tail
  have hsplit : utf8 t ++ (utf8 (node.print d) ++ tail) =
      utf8 t ++ utf8 d.opening ++ (utf8 node.inner ++ utf8 d.closing ++ tail) := by
    rw [Node.print_of_isMarker d hm]
    simp only [utf8_append, List.append_assoc]
  rw [hsplit, segmentsFrom_of_marker d start t hfirst hend, List.map_append, List.map_cons,
    map_textSegment, Node.ofSegment, ofMarker_markerAt d _ hm hsigned]

/-- The nodes of what is printed are the ones that were printed. The text `t` is
what stands in front of the program since the last marker. -/
theorem nodes_print (d : Delimiters) (hunquoted : ∀ b ∈ utf8 d.closing, isQuote b = false)
    (program : Program) (t : String) (start : Nat) (h : Readable d (textNode t ++ program)) :
    (segmentsFrom d start (pieces (utf8 d.opening) (utf8 d.closing)
      (utf8 t ++ utf8 (program.print d)))).map Node.ofSegment = textNode t ++ program := by
  induction program generalizing t start with
  | nil =>
    rw [List.append_nil] at h
    have hprint : utf8 t ++ utf8 (Program.print d []) = utf8 t := List.append_nil _
    rw [hprint, segmentsFrom_of_unmarked start h.unmarked, map_textSegment, List.append_nil]
  | cons node rest ih =>
    have hmem : node ∈ textNode t ++ node :: rest := by simp
    rw [Program.print_cons, utf8_append]
    cases hm : node.isMarker with
    | true =>
      have hrest : Readable d ((textNode t ++ [node]) ++ rest) := by simpa using h
      rw [nodes_print_marker d start t _ hunquoted hm (h.closed node hmem hm)
        (h.signed node hmem) (h.firstAt hm)]
      exact congrArg (fun nodes => textNode t ++ node :: nodes) (ih "" _ hrest.of_append)
    | false =>
      cases node with
      | value expr escape trim => cases hm
      | code text => cases hm
      | literal s =>
        have hs : s ≠ "" := h.signed _ hmem
        have hnode : textNode s = [.literal s] := if_neg hs
        -- no text stands in front of a text
        obtain rfl : t = "" := by
          by_contra ht
          rw [textNode, if_neg ht] at h
          exact (List.isChain_cons_cons.1 h.follows).1
        have hread := ih s start (by rwa [hnode])
        rw [hnode] at hread
        exact hread

/-- **Building undoes printing.** A program that is told from the template that it
is printed as is what is built from it. -/
theorem Program.build?_print {d : Delimiters} {program : Program} (h : Printable d program) :
    Program.build? d (program.print d) = some program := by
  have hafter : afterMark (program.print d).toList = (program.print d).toList := by
    unfold afterMark
    split
    · next cs hcs => exact absurd (by rw [hcs]; rfl) h.front
    · rfl
  have hnodes : (segments d (program.print d)).map Node.ofSegment = program := by
    have hbody : (body (program.print d)).2 = utf8 (program.print d) := by
      rw [(body_spec _).1, hafter, utf8]
    simp only [segments, hbody]
    exact nodes_print d h.unquoted program "" _ h.toReadable
  have hany : program.any Node.isMarker = true := List.any_eq_true.2 h.marked
  simp only [Program.build?, hnodes, hany]
  rfl

/-- A program whose texts and contents come close to the delimiters and to the
signs is read back. -/
theorem Program.build?_print_page :
    Program.build? .standard "a [ [[let y = z;]][[=f(']]')>]]é[[->>>]][[-]]]" =
      some [.literal "a [ ", .code "let y = z;", .value "f(']]')" true .lineEndings,
        .literal "é", .value ">" false .blanks, .code "-", .literal "]"] := by
  have hprint : Program.print .standard [.literal "a [ ", .code "let y = z;",
      .value "f(']]')" true .lineEndings, .literal "é", .value ">" false .blanks, .code "-",
      .literal "]"] = "a [ [[let y = z;]][[=f(']]')>]]é[[->>>]][[-]]]" := by decide
  rw [← hprint]
  refine Program.build?_print { closed := by decide, signed := by decide, follows := by decide,
                                final := ?_, unquoted := ?_, marked := ?_, front := ?_ }
  · intro t ht
    obtain rfl : "]" = t := by simpa using ht
    decide
  · have hclosing : utf8 Delimiters.standard.closing = [0x5D, 0x5D] := by decide
    rw [hclosing]
    simp [isQuote]
  · exact ⟨.code "-", by simp, rfl⟩
  · rw [hprint]
    decide

end Stencil
