import Stencil.Codegen.Body
import Stencil.Proofs.Codegen.Literal

/-!
# Stencil.Proofs.Codegen.Lines

The lines of a body. A body without code has a line for each node and a last one that
hands the text over, as long as no expression has a line feed in it. `readLines?` reads
the nodes off such lines:

1. a line is the making of the accumulator or a call that appends to it, around an
   operand (`readLine?`);
2. an operand that begins with a quote is a literal. Any other is the text of a value,
   with the functions that it goes through around the expression (`readValue?`).

No text of a literal and no expression can be taken for anything else, so the nodes are
read back (`lines_read_back`).
-/

namespace Stencil.Codegen

open Text

/-! ## what stands between two texts -/

/-- What stands between `front` and `back` in characters that begin and end with them. -/
def between? (front back : String) (cs : List Char) : Option (List Char) := do
  let rest ← afterPrefix? front.toList cs
  let inner ← afterPrefix? back.toList.reverse rest.reverse
  return inner.reverse

/-- What stands between two texts is found between them. -/
theorem between?_append (front back : String) (inner : List Char) :
    between? front back (front.toList ++ (inner ++ back.toList)) = some inner := by
  simp [between?, afterPrefix?_append]

/-- Neither text begins with the other one. -/
def Apart (s t : String) : Prop := ¬ s.toList <+: t.toList ∧ ¬ t.toList <+: s.toList

instance (s t : String) : Decidable (Apart s t) := inferInstanceAs (Decidable (_ ∧ _))

/-- Behind another text nothing is found. -/
theorem between?_of_apart {front other : String} (h : Apart front other) (back : String)
    (cs : List Char) : between? front back (other.toList ++ cs) = none := by
  have hnone : afterPrefix? front.toList (other.toList ++ cs) = none := by
    refine afterPrefix?_eq_none_iff.2 fun hfront => ?_
    rcases List.prefix_or_prefix_of_prefix hfront (List.prefix_append other.toList cs) with hp | hp
    · exact h.1 hp
    · exact h.2 hp
  rw [between?, hnone]
  rfl

/-- What a call of a function with a reference refers to. -/
def argument? (function : String) (cs : List Char) : Option (List Char) :=
  between? (function ++ "(&") ")" cs

/-- A call has its function and an opening bracket in front. -/
theorem toList_callWith (function value : String) :
    (callWith function value).toList =
      (function ++ "(&").toList ++ (value.toList ++ ")".toList) := by
  simp [callWith]

/-- The argument of a call is read from it. -/
theorem argument?_callWith (function value : String) :
    argument? function (callWith function value).toList = some value.toList := by
  rw [argument?, toList_callWith, between?_append]

/-- No argument is read from a call of another function. -/
theorem argument?_of_apart {function other : String} (h : Apart (function ++ "(&") (other ++ "(&"))
    (value : String) : argument? function (callWith other value).toList = none := by
  rw [argument?, toList_callWith, between?_of_apart h]

/-! ## values -/

/-- The expression whose text is taken. -/
def readShown? (cs : List Char) : Option String :=
  ((argument? "::std::string::ToString::to_string" cs).bind (between? "(" ")")).map String.ofList

/-- The expression whose text is taken, and whether the text is escaped. -/
def readEscaped? (cs : List Char) : Option (String × Bool) :=
  match argument? "::ztpl::helpers::escape_html" cs with
  | some inner => (readShown? inner).map (·, true)
  | none => (readShown? cs).map (·, false)

/-- The code of a text that is trimmed, and the trim. -/
def readTrimmed (cs : List Char) : List Char × Trim :=
  match argument? "::ztpl::helpers::trim_eol" cs with
  | some inner => (inner, .lineEndings)
  | none =>
    match argument? "::ztpl::helpers::trim_whitespace" cs with
    | some inner => (inner, .blanks)
    | none => (cs, .none)

/-- The value whose text stands in code. -/
def readValue? (cs : List Char) : Option Node :=
  let (inner, trim) := readTrimmed cs
  (readEscaped? inner).map fun (expr, escape) => .value expr escape trim

/-- The code for the text of an expression. -/
def shownText (expr : String) : String :=
  callWith "::std::string::ToString::to_string" ("(" ++ expr ++ ")")

/-- The expression whose text is taken is read back. -/
theorem readShown?_shownText (expr : String) :
    readShown? (shownText expr).toList = some expr := by
  have hinner : ("(" ++ expr ++ ")").toList = "(".toList ++ (expr.toList ++ ")".toList) := by simp
  rw [readShown?, shownText, argument?_callWith, Option.bind_some, hinner, between?_append,
    Option.map_some, String.ofList_toList]

/-- So is whether the text is escaped. -/
theorem readEscaped?_valueText (expr : String) (escape : Bool) :
    readEscaped? (valueText expr escape .none).toList = some (expr, escape) := by
  cases escape with
  | true =>
    have hcode : valueText expr true .none =
        callWith "::ztpl::helpers::escape_html" (shownText expr) := rfl
    rw [readEscaped?, hcode, argument?_callWith]
    dsimp only
    rw [readShown?_shownText, Option.map_some]
  | false =>
    have hcode : valueText expr false .none = shownText expr := rfl
    rw [readEscaped?, hcode, shownText, argument?_of_apart (by decide)]
    dsimp only
    rw [← shownText, readShown?_shownText, Option.map_some]

/-- Text that is not trimmed comes from one of two functions. -/
theorem exists_callWith (expr : String) (escape : Bool) :
    ∃ function ∈ ["::std::string::ToString::to_string", "::ztpl::helpers::escape_html"],
      ∃ value, valueText expr escape .none = callWith function value := by
  cases escape with
  | true => exact ⟨_, by simp, shownText expr, rfl⟩
  | false => exact ⟨_, by simp, "(" ++ expr ++ ")", rfl⟩

/-- So is how it is trimmed. -/
theorem readTrimmed_valueText (expr : String) (escape : Bool) (trim : Trim) :
    readTrimmed (valueText expr escape trim).toList =
      ((valueText expr escape .none).toList, trim) := by
  cases trim with
  | none =>
    have hapart : ∀ function ∈ ["::std::string::ToString::to_string",
        "::ztpl::helpers::escape_html"],
          Apart ("::ztpl::helpers::trim_eol" ++ "(&") (function ++ "(&") ∧
            Apart ("::ztpl::helpers::trim_whitespace" ++ "(&") (function ++ "(&") := by decide
    obtain ⟨function, hmem, value, hcode⟩ := exists_callWith expr escape
    rw [readTrimmed, hcode, argument?_of_apart (hapart _ hmem).1]
    dsimp only
    rw [argument?_of_apart (hapart _ hmem).2]
  | lineEndings =>
    have hcode : valueText expr escape .lineEndings =
        callWith "::ztpl::helpers::trim_eol" (valueText expr escape .none) := rfl
    rw [readTrimmed, hcode, argument?_callWith]
  | blanks =>
    have hcode : valueText expr escape .blanks =
        callWith "::ztpl::helpers::trim_whitespace" (valueText expr escape .none) := rfl
    rw [readTrimmed, hcode, argument?_of_apart (by decide)]
    dsimp only
    rw [argument?_callWith]

/-- The functions that the text of a value goes through, the last one in front. -/
def valueFunctions (escape : Bool) (trim : Trim) : List String :=
  (match trim with
    | .none => []
    | .lineEndings => ["::ztpl::helpers::trim_eol"]
    | .blanks => ["::ztpl::helpers::trim_whitespace"]) ++
  (if escape then ["::ztpl::helpers::escape_html"] else []) ++
  ["::std::string::ToString::to_string"]

/-- The text of a value goes through its functions one after the other. -/
theorem valueText_eq_foldr (expr : String) (escape : Bool) (trim : Trim) :
    valueText expr escape trim =
      (valueFunctions escape trim).foldr callWith ("(" ++ expr ++ ")") := by
  cases escape <;> cases trim <;> rfl

/-- The code for the text of a value has line feeds in the expression only. -/
theorem not_mem_valueText {expr : String} (h : '\n' ∉ expr.toList) (escape : Bool) (trim : Trim) :
    '\n' ∉ (valueText expr escape trim).toList := by
  have hfunctions : ∀ function ∈ valueFunctions escape trim, '\n' ∉ (function ++ "(&").toList := by
    cases escape <;> cases trim <;> decide
  rw [valueText_eq_foldr]
  generalize valueFunctions escape trim = functions at hfunctions ⊢
  induction functions with
  | nil => simpa using h
  | cons function functions ih =>
    rw [List.forall_mem_cons] at hfunctions
    rw [List.foldr_cons, toList_callWith, List.mem_append, List.mem_append, not_or, not_or]
    exact ⟨hfunctions.1, ih hfunctions.2, by decide⟩

/-- The text of a value is read as the value. -/
theorem readValue?_valueText (expr : String) (escape : Bool) (trim : Trim) :
    readValue? (valueText expr escape trim).toList = some (.value expr escape trim) := by
  rw [readValue?, readTrimmed_valueText]
  dsimp only
  rw [readEscaped?_valueText, Option.map_some]

/-! ## lines -/

/-- The node of an operand; the text of a value has `sign` before it. -/
def readOperand? (sign : String) (cs : List Char) : Option Node :=
  match cs with
  | '"' :: rest =>
    match readCooked? .text rest with
    | some (value, []) => some (.literal (String.ofList value))
    | _ => none
  | cs => (afterPrefix? sign.toList cs).bind readValue?

/-- The node of a line with an operand after `front`. -/
def readLine? (front sign : String) (line : List Char) : Option Node :=
  (between? front ");" line).bind (readOperand? sign)

/-- What stands before the operand in the line that makes the accumulator. -/
def openingFront : String := "let mut __z = ::std::string::String::from("

/-- What stands before the operand in a line that appends to the accumulator. -/
def appendingFront : String := "__z.push_str("

/-- The nodes of the lines of a body. -/
def readLines? : List (List Char) → Option Program
  | [] => none
  | first :: rest => do
    let node ← readLine? openingFront "&*" first
    let nodes ← rest.dropLast.mapM (readLine? appendingFront "&")
    if rest.getLast? = some accumulator.toList then return node :: nodes else none

/-- A node that gives one line: a text, or a value whose expression stands on one. -/
def OneLine : Node → Prop
  | .literal _ => True
  | .value expr _ _ => '\n' ∉ expr.toList
  | .code _ => False

instance (node : Node) : Decidable (OneLine node) :=
  match node with
  | .literal _ => .isTrue trivial
  | .value expr _ _ => inferInstanceAs (Decidable ('\n' ∉ expr.toList))
  | .code _ => .isFalse id

/-- The operand for a text or a value; the text of a value has `sign` before it. -/
def operand (sign : String) : Node → String
  | .literal text => literal text
  | .value expr escape trim => sign ++ valueText expr escape trim
  | .code _ => ""

/-- The line with the operand for a node after `front`. -/
def line (front sign : String) (node : Node) : List Char :=
  front.toList ++ ((operand sign node).toList ++ ");".toList)

section
variable {node : Node} {front sign : String}

/-- Code is no line of its own. -/
theorem OneLine.ne_code (h : OneLine node) (text : String) : node ≠ .code text := by
  rintro rfl
  cases h

/-- The first node gives the line that makes the accumulator. -/
theorem toList_openingLines (h : ∀ text, node ≠ .code text) :
    (openingLines node).toList = line openingFront "&*" node ++ ['\n'] := by
  cases node with
  | code text => exact absurd rfl (h text)
  | _ => simp [openingLines, line, openingFront, operand, accumulator]

/-- Every other node gives a line that appends to it. -/
theorem toList_nodeLines (h : ∀ text, node ≠ .code text) :
    (nodeLines node).toList = line appendingFront "&" node ++ ['\n'] := by
  cases node with
  | code text => exact absurd rfl (h text)
  | _ => simp [nodeLines, line, appendingFront, operand, accumulator]

/-- An operand is read as the node that it is for. -/
theorem readOperand?_operand (hsign : sign.toList.head? = some '&') (h : OneLine node) :
    readOperand? sign (operand sign node).toList = some node := by
  cases node with
  | literal text =>
    rw [operand, toList_literal, readOperand?, readCooked?_literalChars]
    dsimp only
    rw [String.ofList_toList]
  | value expr escape trim =>
    obtain ⟨tail, htail⟩ := List.head?_eq_some_iff.1 hsign
    have hsplit : (operand sign (.value expr escape trim)).toList =
        '&' :: (tail ++ (valueText expr escape trim).toList) := by
      rw [operand, String.toList_append, htail, List.cons_append]
    have hafter := afterPrefix?_append sign.toList (valueText expr escape trim).toList
    rw [htail, List.cons_append] at hafter
    rw [hsplit, readOperand?, htail, hafter, Option.bind_some, readValue?_valueText]
    simp
  | code text => cases h

/-- The node of a line is read back. -/
theorem readLine?_line (front : String) (hsign : sign.toList.head? = some '&')
    (h : OneLine node) : readLine? front sign (line front sign node) = some node := by
  rw [readLine?, line, between?_append, Option.bind_some, readOperand?_operand hsign h]

/-- So are the nodes of several lines. -/
theorem mapM_readLine? {nodes : Program} (hsign : sign.toList.head? = some '&')
    (h : ∀ node ∈ nodes, OneLine node) :
    (nodes.map (line front sign)).mapM (readLine? front sign) = some nodes := by
  induction nodes with
  | nil => rfl
  | cons node nodes ih =>
    rw [List.forall_mem_cons] at h
    rw [List.map_cons, List.mapM_cons, readLine?_line front hsign h.1, ih h.2]
    rfl

/-- No line ends within a line. -/
theorem not_mem_line (hfront : '\n' ∉ front.toList) (hsign : '\n' ∉ sign.toList)
    (h : OneLine node) : '\n' ∉ line front sign node := by
  have hoperand : '\n' ∉ (operand sign node).toList := by
    cases node with
    | literal text => exact not_mem_literal (by decide) text
    | value expr escape trim =>
      rw [operand, String.toList_append, List.mem_append, not_or]
      exact ⟨hsign, not_mem_valueText h escape trim⟩
    | code text => cases h
  rw [line, List.mem_append, List.mem_append, not_or, not_or]
  exact ⟨hfront, hoperand, by decide⟩

end

/-! ## bodies -/

/-- The lines of code. -/
def lines (code : String) : List (List Char) := code.toList.splitOn '\n'

/-- Lines with a line feed between them are those that each have one at the end, and the
last one. -/
theorem intercalate_concat (ls : List (List Char)) (last : List Char) :
    ['\n'].intercalate (ls ++ [last]) = ls.flatMap (· ++ ['\n']) ++ last := by
  induction ls with
  | nil => simp
  | cons l ls ih =>
    have hne : ls ++ [last] ≠ [] := by simp
    rw [List.cons_append, List.intercalate_cons_of_ne_nil hne, ih]
    simp

section
variable {node : Node} {rest : Program}

/-- A body without code is made of a line for each node and a last one. -/
theorem toList_body (h : ∀ n ∈ node :: rest, ∀ text, n ≠ .code text) :
    (body (node :: rest)).toList = line openingFront "&*" node ++ ['\n'] ++
      ((rest.flatMap fun n => line appendingFront "&" n ++ ['\n']) ++ accumulator.toList) := by
  rw [List.forall_mem_cons] at h
  have hrest : (String.join (rest.map nodeLines)).toList =
      rest.flatMap fun n => line appendingFront "&" n ++ ['\n'] := by
    rw [String.toList_join, List.flatMap_map, List.flatMap_def, List.flatMap_def]
    exact congrArg List.flatten (List.map_congr_left fun n hn => toList_nodeLines (h.2 n hn))
  rw [body, String.toList_append, String.toList_append, toList_openingLines h.1, hrest,
    List.append_assoc]

/-- The lines of the nodes, and the one that hands the text over. -/
theorem lines_body (h : ∀ n ∈ node :: rest, OneLine n) :
    lines (body (node :: rest)) =
      line openingFront "&*" node :: rest.map (line appendingFront "&") ++
        [accumulator.toList] := by
  have hbody : (body (node :: rest)).toList = ['\n'].intercalate
      ((line openingFront "&*" node :: rest.map (line appendingFront "&")) ++
        [accumulator.toList]) := by
    rw [intercalate_concat, List.flatMap_cons, List.flatMap_map, List.append_assoc,
      toList_body fun n hn => (h n hn).ne_code]
  rw [List.forall_mem_cons] at h
  rw [lines, hbody, List.splitOn_intercalate '\n' ?_ (by simp)]
  intro l hl
  rw [List.mem_append, List.mem_cons, List.mem_map, List.mem_singleton] at hl
  obtain ⟨rfl | ⟨n, hn, rfl⟩⟩ | rfl := hl
  · exact not_mem_line (by decide) (by decide) h.1
  · exact not_mem_line (by decide) (by decide) (h.2 n hn)
  · decide

/-- The nodes are read back from the lines of their body. -/
theorem readLines?_lines_body (h : ∀ n ∈ node :: rest, OneLine n) :
    readLines? (lines (body (node :: rest))) = some (node :: rest) := by
  have hlines := lines_body h
  rw [List.forall_mem_cons] at h
  rw [hlines, List.cons_append, readLines?, readLine?_line _ (by decide) h.1,
    List.dropLast_concat, mapM_readLine? (by decide) h.2, List.getLast?_concat]
  rfl

/-- **The lines of a body are read back.** A body for texts and values that each keep to
one line has a line for every node, made from that node alone, and a last one. The nodes
can be read off these lines, so no other such template has the same body. -/
theorem lines_read_back (h : ∀ n ∈ node :: rest, OneLine n) :
    lines (body (node :: rest)) =
        line openingFront "&*" node :: rest.map (line appendingFront "&") ++
          [accumulator.toList] ∧
      (lines (body (node :: rest))).length = (node :: rest).length + 1 ∧
      readLines? (lines (body (node :: rest))) = some (node :: rest) ∧
      ∀ other : Program, other ≠ [] → (∀ n ∈ other, OneLine n) →
        body other = body (node :: rest) → other = node :: rest := by
  refine ⟨lines_body h, by simp [lines_body h], readLines?_lines_body h, ?_⟩
  intro other hne hother hbody
  cases other with
  | nil => exact absurd rfl hne
  | cons n ns =>
    have hread := readLines?_lines_body hother
    rw [hbody, readLines?_lines_body h] at hread
    exact (Option.some.inj hread).symm

end

/-- A value in front, a text that looks like lines of a body, and an empty one. -/
theorem lines_read_back_quotes :
    let program : Program := [.value "z.s" true .blanks, .literal "\");\n__z.push_str(\"\\",
      .literal "", .value "a), &(b" false .lineEndings]
    (∀ n ∈ program, OneLine n) ∧ (lines (body program)).length = 5 ∧
      readLines? (lines (body program)) = some program ∧
      ∀ other : Program, other ≠ [] → (∀ n ∈ other, OneLine n) → body other = body program →
        other = program :=
  ⟨by decide, (lines_read_back (by decide)).2⟩

end Stencil.Codegen
