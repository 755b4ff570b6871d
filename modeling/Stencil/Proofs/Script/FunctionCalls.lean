import Stencil.Proofs.Script.Control
import Stencil.Proofs.Script.Derivation
import Stencil.Proofs.Text.Trim

/-!
# Stencil.Proofs.Script.FunctionCalls

The signs of a marker as calls of functions. A marker changes the text of its value as
it is written; a function takes the text of its argument and gives a changed one. Both
are the same (`outputText_calls`): what a function is given is a text already where it
is called on the value of another function, and the text of a text is itself.

Since trimming may be done before or after escaping, it does not matter in which order
the functions are called (`marker_eq_calls`).
-/

namespace Stencil.Script

open Text
open Parse

/-! ## calls -/

/-- The functions that change a text. -/
def textFunctions : List String := ["escape_html", "trim_eol", "trim_whitespace"]

/-- What a function makes of a text. -/
def changed (name : String) (s : String) : String :=
  if name = "escape_html" then escapeHtml s
  else if name = "trim_eol" then trimLineEndings s
  else if name = "trim_whitespace" then trimBlanks s
  else s

/-- An expression with functions called on it, the last one first. -/
def calls (names : List String) (e : Expr) : Expr :=
  names.foldr (fun name e => .call (.ident name) [e]) e

/-- The code of an expression with functions called on it. -/
def callsText (names : List String) (code : String) : String :=
  names.foldr (fun name code => name ++ "(" ++ code ++ ")") code

/-- The function that is called instead of the sign that escapes. -/
def escapeNames (escape : Bool) : List String := if escape then ["escape_html"] else []

/-- The function that is called instead of the sign that trims. -/
def trimNames : Trim → List String
  | .none => []
  | .lineEndings => ["trim_eol"]
  | .blanks => ["trim_whitespace"]

theorem mem_textFunctions_of_signs {escape : Bool} {trim : Trim} :
    ∀ name ∈ trimNames trim ++ escapeNames escape, name ∈ textFunctions := by
  cases escape <;> cases trim <;> simp [trimNames, escapeNames, textFunctions]

/-! ## code -/

/-- Code without comments that is read as the tree. -/
def Codes (code : String) (tree : Expr) : Prop :=
  ∃ ls, Lexed code.toList ls ∧ (∀ l ∈ ls, ¬ IsComment l.text) ∧
    Reads .expression (placed 0 ls) tree []

section
variable {code : String} {tree : Expr}

theorem codes_of_parseValue (h : parseValue code = .ok tree) (hcomments : NoComments code) :
    Codes code tree := by
  obtain ⟨ls, hlexed, hreads⟩ := parseValue_eq_ok_iff.1 h
  exact ⟨ls, hlexed, hcomments ls hlexed, hreads⟩

theorem Codes.parseValue (h : Codes code tree) : parseValue code = .ok tree := by
  obtain ⟨ls, hlexed, -, hreads⟩ := h
  exact parseValue_eq_ok_iff.2 ⟨ls, hlexed, hreads⟩

/-- An expression in front of a closing parenthesis is the only argument. -/
theorem reads_argument {ts r : List Token} {o : Nat}
    (h : Reads .expression ts tree (⟨.punct .rparen, o⟩ :: r)) :
    Reads (.items .rparen) ts [tree] r := by
  obtain ⟨front, rfl, hderives⟩ := h.derived
  obtain ⟨tok, rest, htoks, hopens⟩ := hderives.begins
  obtain ⟨t, back, rfl, rfl, -⟩ := List.map_eq_cons_iff.1 htoks
  exact .lastItem (ne_close_of_opens (by simp) hopens) (by decide) h

/-- A word in front of an expression in parentheses calls a function on it. -/
theorem Codes.call (h : Codes code tree) {name : String} (hword : IsWord name)
    (hname : Keyword.ofName? name = none) :
    Codes (name ++ "(" ++ code ++ ")") (.call (.ident name) [tree]) := by
  obtain ⟨ls, hlexed, hcomments, hreads⟩ := h
  have hcode : (name ++ "(" ++ code ++ ")").toList =
      name.toList ++ '(' :: (code.toList ++ [')']) := by simp
  have hwordStart : ∀ c cs, name.toList = c :: cs → isIdentStart c = true → c ≠ '/' := by
    rintro c cs - hc rfl
    exact absurd hc (by decide)
  refine ⟨.word name :: .mark .lparen :: (ls ++ [.mark .rparen]), ?_, ?_, ?_⟩
  · rw [hcode]
    exact lexed_word hword rfl (lexed_mark .lparen (by decide)
      (hlexed.append divides_rparen hcomments (lexed_mark .rparen (by decide) .nil)))
  · have hmark : ∀ p ∈ [Punct.lparen, .rparen], ¬ IsComment p.spelling.toList := by
      simp [IsComment, Punct.spelling]
    refine List.forall_mem_cons.2 ⟨?_, List.forall_mem_cons.2 ⟨hmark _ (by simp), fun l hl => ?_⟩⟩
    · obtain ⟨c, cs, hletters, hc, -⟩ := hword
      rw [Lexeme.word, hletters]
      rintro (⟨rest, hrest⟩ | ⟨rest, hrest⟩) <;>
        exact hwordStart c cs hletters hc (List.cons.inj hrest).1.symm
    · rcases List.mem_append.1 hl with hl | hl
      · exact hcomments l hl
      · obtain rfl := List.mem_singleton.1 hl
        exact hmark _ (by simp)
  · have hargs : ∀ base o,
        Reads (.items .rparen) (placed base ls ++ [⟨.punct .rparen, o⟩]) [tree] [] :=
      fun base o => reads_argument (reads_placed hlexed hreads (next_cons.2 rfl) base)
    simp only [placed_word, placed_mark, placed_append, placed_nil]
    exact .plain (.binary (.operand rfl (.postfixed (.ident hname)
      (.call (hargs _ _) (.bare (next_nil _))))) (.stop (next_nil _))) (next_nil _)

theorem divides_space : Divides ' ' where
  part := by decide
  digit := by decide
  point := by decide
  slash := by decide
  star := by decide
  mark p := by cases p <;> decide

/-- Spaces around code do not matter. -/
theorem Codes.spaced (h : Codes code tree) : Codes (" " ++ code ++ " ") tree := by
  obtain ⟨ls, hlexed, hcomments, hreads⟩ := h
  have hcode : (" " ++ code ++ " ").toList = ' ' :: (code.toList ++ [' ']) := by simp
  have hspace : ¬ IsComment Lexeme.space.text := by simp [IsComment, Lexeme.space]
  refine ⟨.space :: (ls ++ [.space]), ?_, ?_, ?_⟩
  · rw [hcode]
    exact lexed_space (hlexed.append divides_space hcomments (lexed_space .nil))
  · refine List.forall_mem_cons.2 ⟨hspace, fun l hl => ?_⟩
    rcases List.mem_append.1 hl with hl | hl
    · exact hcomments l hl
    · obtain rfl := List.mem_singleton.1 hl
      exact hspace
  · simp only [placed_space, placed_append, placed_nil]
    exact reads_placed hlexed hreads (next_nil _) _

theorem isWord_of_mem_textFunctions :
    ∀ name ∈ textFunctions, IsWord name ∧ Keyword.ofName? name = none := by
  have hwords : ∀ name ∈ textFunctions,
      name.toList.head?.any isIdentStart = true ∧ name.toList.tail.all isIdentPart = true ∧
        Keyword.ofName? name = none := by decide
  intro name hmem
  obtain ⟨hstart, hpart, hname⟩ := hwords name hmem
  obtain ⟨c, hc, hstart⟩ := (Option.any_eq_true _ _).1 hstart
  obtain ⟨cs, hcs⟩ := List.head?_eq_some_iff.1 hc
  rw [hcs] at hpart
  exact ⟨⟨c, cs, hcs, hstart, hpart⟩, hname⟩

theorem Codes.calls (h : Codes code tree) {names : List String}
    (hnames : ∀ name ∈ names, name ∈ textFunctions) :
    Codes (callsText names code) (Script.calls names tree) := by
  induction names with
  | nil => exact h
  | cons name names ih =>
    obtain ⟨hname, hothers⟩ := List.forall_mem_cons.1 hnames
    obtain ⟨hword, hnone⟩ := isWord_of_mem_textFunctions name hname
    exact (ih hothers).call hword hnone

end

/-! ## running -/

section
variable {ctx : Context} {scopes : Scopes}

/-- Calling a function that no variable hides gives its text of the argument. -/
theorem eval_call {name : String} (hname : name ∈ textFunctions)
    (hdata : ctx.dataName ∉ textFunctions) (hlacks : Lacks scopes textFunctions) (e : Expr) :
    eval ctx scopes (.call (.ident name) [e]) =
      (fun v => .string (changed name (display v))) <$> eval ctx scopes e := by
  have hne : name ≠ ctx.dataName := fun heq => hdata (heq ▸ hname)
  have hbound : isBound ctx scopes name = false := by simp [isBound, hlacks name hname, hne]
  have hargs : evalItems ctx scopes [e] = eval ctx scopes e >>= fun v => pure [v] := by
    rw [evalItems, evalItems]
    rfl
  obtain ⟨f, hf, hcall⟩ : ∃ f, Function.ofName? name = some f ∧
      ∀ v, callFunction f [v] = pure (.string (changed name (display v))) := by
    simp only [textFunctions, List.mem_cons, List.not_mem_nil, or_false] at hname
    obtain rfl | rfl | rfl := hname <;> exact ⟨_, rfl, fun _ => rfl⟩
  rw [eval, hbound, hargs, hf]
  simp only [Bool.false_eq_true, if_false, bind_assoc, pure_bind, map_eq_pure_bind]
  exact congrArg _ (funext hcall)

/-- The text of a call of functions is what they make of the text of their argument. -/
theorem display_eval_calls (hdata : ctx.dataName ∉ textFunctions)
    (hlacks : Lacks scopes textFunctions) {names : List String}
    (hnames : ∀ name ∈ names, name ∈ textFunctions) (e : Expr) :
    display <$> eval ctx scopes (calls names e) =
      (fun v => names.foldr changed (display v)) <$> eval ctx scopes e := by
  induction names with
  | nil => rfl
  | cons name names ih =>
    obtain ⟨hname, hothers⟩ := List.forall_mem_cons.1 hnames
    have hcall := eval_call hname hdata hlacks (calls names e)
    calc display <$> eval ctx scopes (calls (name :: names) e)
        = changed name <$> (display <$> eval ctx scopes (calls names e)) := by
          rw [calls, List.foldr_cons, ← calls, hcall, Functor.map_map, Functor.map_map]
          simp only [display]
      _ = (fun v => (name :: names).foldr changed (display v)) <$> eval ctx scopes e := by
          rw [ih hothers, Functor.map_map]
          rfl

/-- Writing a call of functions is writing their argument, changed by them. -/
theorem outputText_calls (hdata : ctx.dataName ∉ textFunctions)
    (hlacks : Lacks scopes textFunctions) {names : List String}
    (hnames : ∀ name ∈ names, name ∈ textFunctions) {escape : Bool} {trim : Trim}
    (hsigns : ∀ s, names.foldr changed s = applyTrim trim (if escape then escapeHtml s else s))
    (e : Expr) :
    outputText ctx scopes (.value (calls names e) false .none) =
      outputText ctx scopes (.value e escape trim) := by
  have hvalue : ∀ v, valueText escape trim v = names.foldr changed (display v) :=
    fun v => (hsigns (display v)).symm
  calc outputText ctx scopes (.value (calls names e) false .none)
      = display <$> eval ctx scopes (calls names e) := (map_eq_pure_bind _ _).symm
    _ = (fun v => names.foldr changed (display v)) <$> eval ctx scopes e :=
        display_eval_calls hdata hlacks hnames e
    _ = outputText ctx scopes (.value e escape trim) := by
        rw [outputText, map_eq_pure_bind]
        simp only [hvalue]

end

/-! ## both orders -/

/-- Trimming what was escaped is what the signs of a marker ask for. -/
theorem foldr_changed_trim (escape : Bool) (trim : Trim) (s : String) :
    (trimNames trim ++ escapeNames escape).foldr changed s =
      applyTrim trim (if escape then escapeHtml s else s) := by
  cases escape <;> cases trim <;> rfl

/-- Escaping what was trimmed gives the same. -/
theorem foldr_changed_escape (escape : Bool) (trim : Trim) (s : String) :
    (escapeNames escape ++ trimNames trim).foldr changed s =
      applyTrim trim (if escape then escapeHtml s else s) := by
  cases escape with
  | false => cases trim <;> rfl
  | true =>
    cases trim with
    | none => rfl
    | lineEndings => simp [escapeNames, trimNames, changed, applyTrim, trimLineEndings_escapeHtml]
    | blanks => simp [escapeNames, trimNames, changed, applyTrim, trimBlanks_escapeHtml]

/-- **Signs of markers and calls of functions.** Trimming leaves the longest part of a
text with bare ends, and it may be done before or after escaping. So a marker with signs
for escaping and trimming writes, or fails with, the same as one without them whose code
calls the functions of these names on the expression, in either order. No variable may
hide the functions, and the data may not have the name of one. -/
theorem marker_eq_calls :
    (∀ s, trimLineEndings (escapeHtml s) = escapeHtml (trimLineEndings s) ∧
      trimBlanks (escapeHtml s) = escapeHtml (trimBlanks s) ∧
      Middle isLineEnding s.toList (trimLineEndings s).toList ∧
      Middle isBlank s.toList (trimBlanks s).toList) ∧
    ∀ (escape : Bool) (trim : Trim) (names : List String),
      names = trimNames trim ++ escapeNames escape ∨ names = escapeNames escape ++ trimNames trim →
      (∀ {code : String} {tree : Expr}, parseValue code = .ok tree → NoComments code →
        parseValue (" " ++ callsText names code ++ " ") = .ok (calls names tree)) ∧
      ∀ (ctx : Context) (frame : Frame), ctx.dataName ∉ textFunctions →
        Lacks frame.scopes textFunctions →
        ∀ (tree : Expr) (outputs outputs' : List Output) (index index' : Nat),
          outputs[index]? = some (.value tree escape trim) →
          outputs'[index']? = some (.value (calls names tree) false .none) →
          exec outputs ctx (.emit index) frame = exec outputs' ctx (.emit index') frame := by
  refine ⟨fun s => ⟨trimLineEndings_escapeHtml s, trimBlanks_escapeHtml s, ?_, ?_⟩,
    fun escape trim names hnames => ?_⟩
  · rw [trimLineEndings, toList_trimEnds]
    exact trimChars_middle _ _
  · rw [trimBlanks, toList_trimEnds]
    exact trimChars_middle _ _
  · have hmem : ∀ name ∈ names, name ∈ textFunctions := by
      rcases hnames with rfl | rfl
      · exact mem_textFunctions_of_signs
      · exact fun name hname => mem_textFunctions_of_signs name
          (List.mem_append.2 (List.mem_append.1 hname).symm)
    have hsigns : ∀ s, names.foldr changed s =
        applyTrim trim (if escape then escapeHtml s else s) := by
      rcases hnames with rfl | rfl
      · exact foldr_changed_trim escape trim
      · exact foldr_changed_escape escape trim
    refine ⟨fun hcode hcomments =>
      ((codes_of_parseValue hcode hcomments).calls hmem).spaced.parseValue, ?_⟩
    intro ctx frame hdata hlacks tree outputs outputs' index index' hget hget'
    rw [exec_emit, exec_emit, hget, hget']
    dsimp only
    rw [outputText_calls hdata hlacks hmem hsigns]

/-- Trimming first and escaping then, where there is a variable of another name. -/
theorem marker_eq_calls_trimmed_first :
    let names := ["escape_html", "trim_whitespace"]
    let ctx : Context := ⟨"z", .string " <b> "⟩
    let frame : Frame := ⟨[[("trim", .null)]], "t"⟩
    names = escapeNames true ++ trimNames .blanks ∧ ctx.dataName ∉ textFunctions ∧
    Lacks frame.scopes textFunctions ∧ ∃ tree,
      parseValue "z + '//'" = .ok tree ∧
      parseValue " escape_html(trim_whitespace(z + '//')) " = .ok (calls names tree) ∧
      exec [.value tree true .blanks] ctx (.emit 0) frame =
        exec [.text "t", .value (calls names tree) false .none] ctx (.emit 1) frame := by
  intro names ctx frame
  have hdata : ctx.dataName ∉ textFunctions := by decide
  have hlacks : Lacks frame.scopes textFunctions := by
    simp [Lacks, textFunctions, frame, Scopes.find?]
  obtain ⟨tree, htree⟩ := Except.exists_of_isOk
    (show (parseValue "z + '//'").isOk = true by decide +kernel)
  have hcomments : NoComments "z + '//'" := noComments_of_uncommented (by decide +kernel)
  have htext : " " ++ callsText names "z + '//'" ++ " " =
      " escape_html(trim_whitespace(z + '//')) " := by decide +kernel
  obtain ⟨hcode, hrun⟩ := marker_eq_calls.2 true .blanks names (.inr rfl)
  have hcalls := hcode htree hcomments
  rw [htext] at hcalls
  exact ⟨rfl, hdata, hlacks, tree, htree, hcalls,
    hrun ctx frame hdata hlacks tree _ _ 0 1 rfl rfl⟩

end Stencil.Script
