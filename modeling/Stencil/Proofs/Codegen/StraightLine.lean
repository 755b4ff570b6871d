import Stencil.Codegen.Function
import Stencil.Proofs.Codegen.Joining
import Stencil.Proofs.Codegen.Literal
import Stencil.Text.Html
import Stencil.Text.Trim

/-!
# Stencil.Proofs.Codegen.StraightLine

What a body does if no code of the template stands in it: a text is bound to a variable,
other texts are appended to it, and the variable is the result (`run?`). A body for a
template without markers is a text at once.

An operand is a literal, or functions applied to the text of an expression (`text?`).
What the text of an expression is depends on where the function stands, so it is given:
the expressions whose texts are taken, in the order in which that happens, each with its
text. Running fails if another expression comes up or one is left over.
-/

namespace Stencil.Codegen

open Text

/-- The expressions whose texts are taken, in order, with these texts. -/
abbrev Displays := List (List Token × String)

/-! ## calls -/

/-- The tokens up to the bracket that closes one of the kind `outer`, and those after it,
where the brackets `inner` have been opened since. -/
def splitGroup? (outer : Bracket) : List Bracket → List Token → Option (List Token × List Token)
  | _, [] => none
  | [], .closing b :: rest => if b = outer then some ([], rest) else none
  | a :: inner, .closing b :: rest =>
    if a = b then
      (splitGroup? outer inner rest).map fun (group, rest) => (.closing b :: group, rest)
    else none
  | inner, .opening b :: rest =>
    (splitGroup? outer (b :: inner) rest).map fun (group, rest) => (.opening b :: group, rest)
  | inner, t :: rest => (splitGroup? outer inner rest).map fun (group, rest) => (t :: group, rest)

/-- The names of the path at the front, and what follows it. -/
def splitPath : List Token → List String × List Token
  | .mark ':' true :: .mark ':' _ :: .word name :: rest =>
    let (names, rest) := splitPath rest
    (name :: names, rest)
  | ts => ([], ts)

/-- The call at the front: the path of the function, the argument, and what follows. -/
def call? (ts : List Token) : Option (List String × List Token × List Token) :=
  match splitPath ts with
  | (path, .opening .round :: rest) =>
    (splitGroup? .round [] rest).map fun (argument, rest) => (path, argument, rest)
  | _ => none

theorem length_of_splitGroup? {outer : Bracket} {inner : List Bracket} {ts group rest : List Token}
    (h : splitGroup? outer inner ts = some (group, rest)) :
    group.length + rest.length < ts.length := by
  fun_induction splitGroup? outer inner ts generalizing group rest with
  | case1 | case3 | case5 => cases h
  | case2 =>
    obtain ⟨rfl, rfl⟩ := Prod.mk.inj (Option.some.inj h)
    simp
  | case4 _ _ _ ih | case6 _ _ _ ih | case7 _ _ _ _ _ _ ih =>
    obtain ⟨⟨group, rest⟩, hsplit, heq⟩ := Option.map_eq_some_iff.1 h
    obtain ⟨rfl, rfl⟩ := Prod.mk.inj heq
    have := ih hsplit
    simp only [List.length_cons]
    omega

theorem length_splitPath_le (ts : List Token) : (splitPath ts).2.length ≤ ts.length := by
  fun_induction splitPath ts with
  | case1 joined name ts names rest hsplit ih =>
    rw [hsplit] at ih
    simp only [List.length_cons] at ih ⊢
    omega
  | case2 ts => exact Nat.le_refl _

theorem length_of_call? {ts argument rest : List Token} {path : List String}
    (h : call? ts = some (path, argument, rest)) : argument.length + rest.length < ts.length := by
  have hpath := length_splitPath_le ts
  unfold call? at h
  split at h
  · next names after hsplit =>
    obtain ⟨⟨group, rest⟩, hgroup, heq⟩ := Option.map_eq_some_iff.1 h
    obtain ⟨-, rfl, rfl⟩ : names = path ∧ group = argument ∧ rest = _ := by simpa using heq
    have := length_of_splitGroup? hgroup
    rw [hsplit, List.length_cons] at hpath
    omega
  · cases h

/-- A group ends where its brackets match. -/
theorem splitGroup?_append {inner : List Bracket} {ts : List Token}
    (h : balanced inner ts = true) (outer : Bracket) (rest : List Token) :
    splitGroup? outer inner (ts ++ .closing outer :: rest) = some (ts, rest) := by
  fun_induction balanced inner ts with
  | case1 => rw [List.isEmpty_iff.1 h, List.nil_append, splitGroup?, if_pos rfl]
  | case2 inner b ts ih => rw [List.cons_append, splitGroup?, ih h, Option.map_some]
  | case3 => cases h
  | case4 a inner b ts ih =>
    obtain ⟨hsame, hrest⟩ := Bool.and_eq_true_iff.1 h
    rw [List.cons_append, splitGroup?, if_pos (eq_of_beq hsame), ih hrest, Option.map_some]
  | case5 inner t ts hopening hnone hclosing ih =>
    rw [List.cons_append, splitGroup?, ih h, Option.map_some]
    all_goals assumption

/-- The tokens of a path. -/
def pathTokens (names : List String) : List Token :=
  names.flatMap fun name => [.mark ':' true, .mark ':' false, .word name]

theorem splitPath_pathTokens (names : List String) (ts : List Token) :
    splitPath (pathTokens names ++ .opening .round :: ts) = (names, .opening .round :: ts) := by
  induction names with
  | nil => rfl
  | cons name names ih =>
    have hcons : pathTokens (name :: names) ++ .opening .round :: ts =
        .mark ':' true :: .mark ':' false :: .word name ::
          (pathTokens names ++ .opening .round :: ts) := rfl
    rw [hcons, splitPath, ih]

/-- A call is read as what it is. -/
theorem call?_pathTokens (names : List String) {argument : List Token}
    (h : balanced [] argument = true) (rest : List Token) :
    call? (pathTokens names ++ .opening .round :: (argument ++ .closing .round :: rest)) =
      some (names, argument, rest) := by
  rw [call?, splitPath_pathTokens]
  dsimp only
  rw [splitGroup?_append h .round, Option.map_some]

/-! ## texts -/

/-- What a function makes of a text. -/
def function? : List String → Option (String → String)
  | ["ztpl", "helpers", "escape_html"] => some escapeHtml
  | ["ztpl", "helpers", "trim_eol"] => some trimLineEndings
  | ["ztpl", "helpers", "trim_whitespace"] => some trimBlanks
  | _ => none

/-- The path of the function that takes the text of an expression. -/
def displayPath : List String := ["std", "string", "ToString", "to_string"]

/-- The text of the expression that comes next. -/
def display? : Displays → List Token → Option (String × Displays)
  | (expr, text) :: displays, .mark '&' _ :: group =>
    if group = within .round expr then some (text, displays) else none
  | _, _ => none

/-- The text of an operand, and the expressions that are left over. -/
def text? (displays : Displays) (ts : List Token) : Option (String × Displays) :=
  match ts with
  | [.literal written] =>
    match readLiteral? written with
    | some (text, after) => if after = "" then some (text, displays) else none
    | none => none
  -- A reference has the text that it refers to.
  | .mark '&' _ :: rest => text? displays rest
  | .mark '*' _ :: rest => text? displays rest
  | ts =>
    match _h : call? ts with
    | some (path, argument, []) =>
      if path = displayPath then display? displays argument
      else
        match function? path with
        | some run => (text? displays argument).map fun (text, displays) => (run text, displays)
        | none => none
    | _ => none
termination_by ts.length
decreasing_by
  · simp
  · simp
  · have := length_of_call? _h
    simpa using this

/-- The text of a call. -/
theorem text?_of_call {displays : Displays} {ts argument : List Token} {path : List String}
    (h : call? ts = some (path, argument, [])) :
    text? displays ts =
      if path = displayPath then display? displays argument
      else (function? path).bind fun run =>
        (text? displays argument).map fun (text, displays) => (run text, displays) := by
  rw [text?.eq_def]
  split
  · cases h
  · simp [call?, splitPath] at h
  · simp [call?, splitPath] at h
  · split
    · next hcall =>
      obtain ⟨rfl, rfl⟩ : path = _ ∧ argument = _ := by simpa using h.symm.trans hcall
      split
      · rfl
      · cases function? path <;> rfl
    · next hno => exact absurd h (hno _ _)

/-! ## statements -/

/-- The text of the variable `name` after statements that append to it, last of which is
its name. The text is `text` before. -/
def appended? (name text : String) (displays : Displays) (ts : List Token) : Option String :=
  match ts with
  | [.word word] => if word = name ∧ displays = [] then some text else none
  | .word word :: .mark '.' _ :: .word "push_str" :: .opening .round :: rest =>
    if word = name then
      match _h : splitGroup? .round [] rest with
      | some (operand, .mark ';' _ :: rest) =>
        match text? displays operand with
        | some (more, displays) => appended? name (text ++ more) displays rest
        | none => none
      | _ => none
    else none
  | _ => none
termination_by ts.length
decreasing_by
  have := length_of_splitGroup? _h
  simp only [List.length_cons] at this ⊢
  omega

/-- The path of the function that makes a text. -/
def textPath : List String := ["std", "string", "String", "from"]

/-- The text that code gives, where the texts of expressions are given. -/
def run? (displays : Displays) (ts : List Token) : Option String :=
  match ts with
  | .word "let" :: .word "mut" :: .word name :: .mark '=' _ :: rest =>
    match call? rest with
    | some (path, operand, .mark ';' _ :: rest) =>
      if path = textPath then
        (text? displays operand).bind fun (text, displays) => appended? name text displays rest
      else none
    | _ => none
  -- No statement, but a text at once.
  | ts =>
    match call? ts with
    | some (path, operand, []) =>
      if path = textPath then
        match text? displays operand with
        | some (text, []) => some text
        | _ => none
      else none
    | _ => none

/-! ## operands -/

/-- The function that makes a text, as it is written, and its path. -/
def textFunction : String × List String := ("::std::string::String::from", textPath)

/-- The function that takes the text of an expression. -/
def displayFunction : String × List String := ("::std::string::ToString::to_string", displayPath)

/-- The function that escapes a text. -/
def escapeFunction : String × List String :=
  ("::ztpl::helpers::escape_html", ["ztpl", "helpers", "escape_html"])

/-- The function that trims the line endings of a text. -/
def lineEndingsFunction : String × List String :=
  ("::ztpl::helpers::trim_eol", ["ztpl", "helpers", "trim_eol"])

/-- The function that trims a text. -/
def blanksFunction : String × List String :=
  ("::ztpl::helpers::trim_whitespace", ["ztpl", "helpers", "trim_whitespace"])

/-- The functions that bodies call. -/
def functions : List (String × List String) :=
  [textFunction, displayFunction, escapeFunction, lineEndingsFunction, blanksFunction]

/-- The path of the function that makes an empty text. -/
def emptyPath : List String := ["std", "string", "String", "new"]

/-- The tokens in front of the text that the variable of a body is made with. -/
def makingTokens : List Token := [.word "let", .word "mut", .word accumulator, .mark '=' false]

/-- The tokens in front of a text that is appended to it. -/
def appendingTokens : List Token := [.word accumulator, .mark '.' false, .word "push_str"]

/-- The fixed pieces of the code of bodies, each with its tokens. -/
def pieces : List (String × List Token) := [
  (";", [.mark ';' false]),
  (accumulator, [.word accumulator]),
  (";\n__z", [.mark ';' false, .word accumulator]),
  ("__z.push_str", appendingTokens),
  (";\n__z.push_str", .mark ';' false :: appendingTokens),
  ("let mut __z = ::std::string::String::from", makingTokens ++ pathTokens textPath),
  ("let mut __z = ::std::string::String::new();", makingTokens ++ (pathTokens emptyPath ++
    [.opening .round, .closing .round, .mark ';' false]))] ++
  functions.map fun f => (f.1, pathTokens f.2)

/-- Each of them is complete. -/
theorem complete_piece {code : String} {ts : List Token} (h : (code, ts) ∈ pieces) :
    Complete code.toList ts := by
  have hfixed : ∀ p ∈ pieces, plainTokens? p.1.toList = some p.2 ∧ balanced [] p.2 = true := by
    decide +kernel
  exact ⟨(hfixed _ h).1, (hfixed _ h).2⟩

theorem complete_function {f : String × List String} (hf : f ∈ functions) :
    Complete f.1.toList (pathTokens f.2) :=
  complete_piece (List.mem_append_right _ (List.mem_map_of_mem hf))

/-- A reference or what is behind one. -/
theorem Complete.sign {m : Char} {cs : List Char} {ts : List Token} (hm : m ∈ ['&', '*'])
    (h : Complete cs ts) : Complete (m :: cs) (.mark m (joinsMark cs) :: ts) := by
  have hlexeme : startsComment (m :: cs) = false ∧ Lexeme m cs [.mark m (joinsMark cs)] cs := by
    simp only [List.mem_cons, List.not_mem_nil, or_false] at hm
    rcases hm with rfl | rfl <;> exact ⟨rfl, .mark (by decide) rfl rfl rfl⟩
  refine ⟨?_, h.brackets⟩
  rw [plainTokens?_cons hlexeme.1 hlexeme.2, h.tokens]
  rfl

/-- A literal is one token. -/
theorem complete_literal (s : String) : Complete (literal s).toList [.literal (literal s)] := by
  have hlexeme : Lexeme '"' (s.toList.flatMap literalChar ++ ['"'])
      [.literal (String.ofList (before (literal s).toList []))] [] := by
    rw [toList_literal]
    refine .literal (by decide) ?_
    simp [afterLiteral?, readCooked?_literalChars, afterSuffix, afterPlainWord?]
  have hbefore : before (literal s).toList [] = (literal s).toList := by simp [before]
  rw [hbefore, String.ofList_toList] at hlexeme
  refine ⟨?_, rfl⟩
  rw [toList_literal, plainTokens?, if_neg (by simp [startsComment]),
    (lexeme?_eq_some_iff rfl).2 hlexeme]
  dsimp only
  rw [List.length_nil, Nat.sub_zero, List.drop_length, plainTokens?]
  rfl

/-- Code is an operand that has a text, and leaves the expressions `left`. -/
def Denotes (displays : Displays) (cs : List Char) (text : String) (left : Displays) : Prop :=
  ∃ ts, Complete cs ts ∧ text? displays ts = some (text, left)

section
variable {displays left : Displays} {cs : List Char} {text : String}

theorem denotes_literal (displays : Displays) (s : String) :
    Denotes displays (literal s).toList s displays := by
  have hread := readLiteral?_literal s ""
  rw [String.append_empty] at hread
  refine ⟨_, complete_literal s, ?_⟩
  rw [text?, hread]
  rfl

theorem Denotes.sign {m : Char} (hm : m ∈ ['&', '*']) (h : Denotes displays cs text left) :
    Denotes displays (m :: cs) text left := by
  obtain ⟨ts, hcomplete, htext⟩ := h
  refine ⟨_, hcomplete.sign hm, ?_⟩
  simp only [List.mem_cons, List.not_mem_nil, or_false] at hm
  rcases hm with rfl | rfl <;> rw [text?, htext]

/-- A call is complete if its argument is. -/
theorem complete_callWith {f : String × List String} (hf : f ∈ functions) {value : String}
    {argument : List Token} (h : Complete ('&' :: value.toList) argument) :
    Complete (callWith f.1 value).toList
      (pathTokens f.2 ++ .opening .round :: (argument ++ .closing .round :: [])) := by
  have hcode : (callWith f.1 value).toList =
      f.1.toList ++ '(' :: ('&' :: value.toList ++ ')' :: []) := by
    simp [callWith]
  rw [hcode]
  exact (complete_function hf).round h complete_nil

/-- The text of an expression. -/
theorem denotes_shown {expr : String} {ts : List Token} (h : Complete expr.toList ts)
    (displays : Displays) (text : String) :
    Denotes ((ts, text) :: displays) (callWith displayFunction.1 ("(" ++ expr ++ ")")).toList text
      displays := by
  have hgroup : Complete ("(" ++ expr ++ ")").toList (within .round ts) := by
    have hcode : ("(" ++ expr ++ ")").toList = [] ++ '(' :: (expr.toList ++ ')' :: []) := by simp
    rw [hcode]
    exact complete_nil.round h complete_nil
  have hargument := hgroup.sign (m := '&') (by simp)
  have hpath : displayFunction.2 = displayPath := rfl
  refine ⟨_, complete_callWith (by simp [functions]) hargument, ?_⟩
  rw [text?_of_call (call?_pathTokens displayFunction.2 hargument.brackets []), if_pos hpath,
    display?, if_pos rfl]

/-- A function of a text. -/
theorem Denotes.call {f : String × List String} {g : String → String} {value : String}
    (h : Denotes displays value.toList text left) (hf : f ∈ functions)
    (hg : function? f.2 = some g) : Denotes displays (callWith f.1 value).toList (g text) left := by
  obtain ⟨ts, hargument, htext⟩ := h.sign (m := '&') (by simp)
  have hpath : f.2 ≠ displayPath := by
    intro hpath
    rw [hpath] at hg
    cases hg
  refine ⟨_, complete_callWith hf hargument, ?_⟩
  rw [text?_of_call (call?_pathTokens f.2 hargument.brackets []), if_neg hpath, hg,
    Option.bind_some, htext, Option.map_some]

end

/-! ## programs -/

section
variable {displays left : Displays} {operand : List Token} {more : String}

/-- A statement that appends a text. -/
theorem appended?_push (h : balanced [] operand = true)
    (htext : text? displays operand = some (more, left)) (name text : String) (j k : Bool)
    (ts : List Token) :
    appended? name text displays (.word name :: .mark '.' j :: .word "push_str" ::
        .opening .round :: (operand ++ .closing .round :: .mark ';' k :: ts)) =
      appended? name (text ++ more) left ts := by
  have hsplit := splitGroup?_append h .round (.mark ';' k :: ts)
  rw [appended?, if_pos rfl]
  split
  · next operand' k' ts' hsome =>
    obtain ⟨rfl, ⟨-, rfl⟩⟩ : operand = operand' ∧ (k = k' ∧ ts = ts') := by
      simpa using hsplit.symm.trans hsome
    rw [htext]
  · next hno => exact absurd hsplit (hno _ _ _)

/-- The statement that binds a text to a variable. -/
theorem run?_let (h : balanced [] operand = true)
    (htext : text? displays operand = some (more, left)) (name : String) (j k : Bool)
    (ts : List Token) :
    run? displays (.word "let" :: .word "mut" :: .word name :: .mark '=' j ::
        (pathTokens textPath ++ .opening .round ::
          (operand ++ .closing .round :: .mark ';' k :: ts))) =
      appended? name more left ts := by
  rw [run?, call?_pathTokens textPath h]
  simp [htext]

example : run? [([.word "x"], "<b")] (code ("let mut t = ::std::string::String::from(\"a\"); " ++
    "t.push_str(&::std::string::ToString::to_string(&(x))); t")) = some "a<b" := by decide +kernel

/-- A text that is all of a program. -/
theorem run?_text (h : balanced [] operand = true)
    (htext : text? displays operand = some (more, [])) :
    run? displays (pathTokens textPath ++ .opening .round :: (operand ++ [.closing .round])) =
      some more := by
  have hcall := call?_pathTokens textPath h []
  rw [run?, hcall]
  · simp [htext]
  · intro name j rest heq
    cases heq

end

end Stencil.Codegen
