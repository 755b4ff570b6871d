import Stencil.Include
import Stencil.Proofs.Codegen.Lines
import Stencil.Proofs.Codegen.StraightLine
import Stencil.Proofs.Script.Prepared
import Stencil.Proofs.Script.Writes

/-!
# Stencil.Proofs.Codegen.Agreement

A template is used in two ways: it is compiled to the code of a function, or it is
rendered as a script. The two have in common only the nodes that the template is read as.
If no node is code and every expression is complete code, both write the same text,
provided that the expressions have the same texts in both.

1. The body of the function has an operand for each node, which has the text of the node
   (`denotes_operand`). Running the body therefore gives these texts, one after the other
   (`run?_body`).
2. The script writes the same texts in the same order (`Shows.gives_run`).
3. A template without markers is a text in both (`run?_fixed`), with the mark of byte order
   that it may begin with.
-/

namespace Stencil.Codegen

open Text

/-! ## what nodes write -/

/-- The text that a node writes if the texts of expressions are assigned to them. -/
def nodeText (assigned : String → String) : Node → String
  | .literal text => text
  | .value expr escape trim =>
    Script.applyTrim trim (if escape then escapeHtml (assigned expr) else assigned expr)
  | .code _ => ""

/-- The expressions of nodes, in order, with the texts that are assigned to them. -/
def displays (assigned : String → String) : Program → Displays
  | [] => []
  | .value expr _ _ :: rest => (code expr, assigned expr) :: displays assigned rest
  | _ :: rest => displays assigned rest

/-- Whether a node is a text or the value of a complete expression. -/
def completeNode : Node → Bool
  | .literal _ => true
  | .value expr _ _ => isComplete expr
  | .code _ => false

theorem ne_code_of_completeNode {program : Program} (h : ∀ n ∈ program, completeNode n = true) :
    ∀ n ∈ program, ∀ text, n ≠ .code text := by
  rintro n hn text rfl
  cases h _ hn

theorem complete_code {expr : String} (h : isComplete expr = true) :
    Complete expr.toList (code expr) := by
  obtain ⟨ts, hcomplete⟩ := exists_complete h
  rw [code, tokens?_of_complete hcomplete]
  exact hcomplete

section
variable (assigned : String → String) {node : Node} {rest : Program}

theorem denotes_valueText {expr : String} {ts : List Token} (h : Complete expr.toList ts)
    (left : Displays) (text : String) (escape : Bool) (trim : Trim) :
    Denotes ((ts, text) :: left) (valueText expr escape trim).toList
      (Script.applyTrim trim (if escape then escapeHtml text else text)) left := by
  have hshown := denotes_shown h left text
  have hescaped : Denotes ((ts, text) :: left) (valueText expr escape .none).toList
      (if escape then escapeHtml text else text) left := by
    cases escape with
    | true => exact hshown.call (f := escapeFunction) (g := escapeHtml) (by simp [functions]) rfl
    | false => exact hshown
  cases trim with
  | none => exact hescaped
  | lineEndings =>
    exact hescaped.call (f := lineEndingsFunction) (g := trimLineEndings) (by simp [functions]) rfl
  | blanks =>
    exact hescaped.call (f := blanksFunction) (g := trimBlanks) (by simp [functions]) rfl

/-- The operand for a node has the text that the node writes. -/
theorem denotes_operand (h : completeNode node = true) (rest : Program) {sign : String}
    (hsign : sign ∈ ["&", "&*"]) :
    Denotes (displays assigned (node :: rest)) (operand sign node).toList
      (nodeText assigned node) (displays assigned rest) := by
  cases node with
  | literal text => exact denotes_literal _ text
  | value expr escape trim =>
    have hvalue := denotes_valueText (complete_code h) (displays assigned rest) (assigned expr)
      escape trim
    simp only [List.mem_cons, List.not_mem_nil, or_false] at hsign
    rcases hsign with rfl | rfl
    · have hcode : (operand "&" (.value expr escape trim)).toList =
          '&' :: (valueText expr escape trim).toList := by simp [operand]
      rw [hcode]
      exact hvalue.sign (by simp)
    · have hcode : (operand "&*" (.value expr escape trim)).toList =
          '&' :: '*' :: (valueText expr escape trim).toList := by simp [operand]
      rw [hcode]
      exact (hvalue.sign (by simp)).sign (by simp)
  | code text => cases h

/-! ## running bodies -/

/-- The code of a body from behind the operand of a node on, where `rest` are the nodes
after it. -/
def following (rest : Program) : List Char :=
  ";\n".toList ++
    ((rest.flatMap fun n => line appendingFront "&" n ++ ['\n']) ++ accumulator.toList)

theorem following_cons (node : Node) (rest : Program) :
    following (node :: rest) = ";\n__z.push_str".toList ++
      '(' :: ((operand "&" node).toList ++ ')' :: following rest) := by
  simp [following, line, appendingFront]

theorem toList_body_round (h : ∀ n ∈ node :: rest, ∀ text, n ≠ .code text) :
    (body (node :: rest)).toList = "let mut __z = ::std::string::String::from".toList ++
      '(' :: ((operand "&*" node).toList ++ ')' :: following rest) := by
  rw [toList_body h]
  simp [following, line, openingFront]

/-- What follows an operand ends the statement, appends the texts of the other nodes and
gives the text. -/
theorem appended?_following (h : ∀ n ∈ rest, completeNode n = true) :
    ∃ ts, Complete (following rest) (.mark ';' false :: ts) ∧ ∀ text,
      appended? accumulator text (displays assigned rest) ts =
        some (text ++ String.join (rest.map (nodeText assigned))) := by
  induction rest with
  | nil =>
    have hcomplete : Complete ";\n__z".toList [.mark ';' false, .word accumulator] :=
      complete_piece (by simp [pieces])
    refine ⟨_, hcomplete, fun text => ?_⟩
    rw [appended?, List.map_nil, String.join_nil, String.append_empty]
    rfl
  | cons node rest ih =>
    rw [List.forall_mem_cons] at h
    obtain ⟨ts, hrest, hrun⟩ := ih h.2
    obtain ⟨operand, hoperand, htext⟩ :=
      denotes_operand assigned h.1 rest (show "&" ∈ ["&", "&*"] by simp)
    have hfront : Complete ";\n__z.push_str".toList (.mark ';' false :: appendingTokens) :=
      complete_piece (by simp [pieces])
    have hcomplete := hfront.round hoperand hrest
    rw [← following_cons] at hcomplete
    refine ⟨_, hcomplete, fun text => ?_⟩
    rw [List.map_cons, String.join_cons, ← String.append_assoc, ← hrun]
    exact appended?_push hoperand.brackets htext accumulator text false false ts

/-- Running the body for complete nodes gives their texts, one after the other. -/
theorem run?_body (h : ∀ n ∈ node :: rest, completeNode n = true) :
    ∃ ts, tokens? (body (node :: rest)) = some ts ∧
      run? (displays assigned (node :: rest)) ts =
        some (String.join ((node :: rest).map (nodeText assigned))) := by
  have hcode := ne_code_of_completeNode h
  rw [List.forall_mem_cons] at h
  obtain ⟨ts, hrest, hrun⟩ := appended?_following assigned h.2
  obtain ⟨operand, hoperand, htext⟩ :=
    denotes_operand assigned h.1 rest (show "&*" ∈ ["&", "&*"] by simp)
  have hfront : Complete "let mut __z = ::std::string::String::from".toList
      (makingTokens ++ pathTokens textPath) := complete_piece (by simp [pieces])
  have hcomplete := hfront.round hoperand hrest
  rw [← toList_body_round hcode] at hcomplete
  refine ⟨_, tokens?_of_complete hcomplete, ?_⟩
  rw [List.map_cons, String.join_cons, ← hrun]
  exact run?_let hoperand.brackets htext accumulator false false ts

end

/-! ## rendering -/

/-- The nodes of a template. -/
def nodes (delimiters : Delimiters) (source : String) : Program :=
  (Scan.segments delimiters source).map Node.ofSegment

theorem build?_eq_nodes (delimiters : Delimiters) (source : String) :
    Program.build? delimiters source =
      if (nodes delimiters source).any Node.isMarker then some (nodes delimiters source)
      else none := rfl

open Rendering (Outcome)
open Script (Context Gives)

section
variable {σ : Type}

/-- Rendering comes to the texts that are assigned to the expressions of nodes: each one
is an expression of the script language, and its value is written as that text. The state
that requests are answered from is handed on from one node to the next. -/
inductive Shows (reply : String → Json → σ → Outcome String × σ) (ctx : Context)
    (assigned : String → String) : σ → Program → σ → Prop where
  | nil {s : σ} : Shows reply ctx assigned s [] s
  | literal {s s' : σ} {text : String} {rest : Program} : Shows reply ctx assigned s rest s' →
    Shows reply ctx assigned s (.literal text :: rest) s'
  | value {s s₁ s' : σ} {expr : String} {escape : Bool} {trim : Trim} {tree : Script.Expr}
    {v : Json} {rest : Program} : Script.parseValue expr = .ok tree →
    Gives reply s (Script.eval ctx [[]] tree) v s₁ → Script.display v = assigned expr →
    Shows reply ctx assigned s₁ rest s' →
    Shows reply ctx assigned s (.value expr escape trim :: rest) s'

variable {reply : String → Json → σ → Outcome String × σ} {ctx : Context}
  {assigned : String → String} {s s' : σ} {program : Program}

/-- The outputs of such nodes have the texts of the nodes. -/
theorem Shows.collected (h : Shows reply ctx assigned s program s') (base index : Nat) :
    ∃ ts outputs, Script.Collected base index program ts outputs ∧
      Gives reply s (outputs.mapM (Script.outputText ctx [[]])) (program.map (nodeText assigned))
        s' := by
  induction h generalizing base index with
  | nil => exact ⟨[], [], .nil, rfl⟩
  | @literal s s' text rest hrest ih =>
    obtain ⟨ts, outputs, hcollected, hgives⟩ := ih (base + octets text.toList) (index + 1)
    refine ⟨_, _, .literal hcollected, ?_⟩
    rw [List.mapM_cons, List.map_cons]
    exact (Script.gives_text text).bind (hgives.bind rfl)
  | @value s s₁ s' expr escape trim tree v rest htree heval hdisplay hrest ih =>
    obtain ⟨ts, outputs, hcollected, hgives⟩ := ih (base + octets expr.toList) (index + 1)
    have hvalue := Script.gives_value heval escape trim
    rw [Script.valueText, hdisplay] at hvalue
    refine ⟨_, _, .value htree hcollected, ?_⟩
    rw [List.mapM_cons, List.map_cons]
    exact hvalue.bind (hgives.bind rfl)

/-- Without markers there are no expressions, and nothing is asked for. -/
theorem Shows.of_texts (h : Shows reply ctx assigned s program s')
    (htexts : program.any Node.isMarker = false) : displays assigned program = [] ∧ s' = s := by
  induction h with
  | nil => exact ⟨rfl, rfl⟩
  | literal hrest ih => exact ih htexts
  | value htree heval hdisplay hrest ih => cases htexts

/-- Such nodes are accepted, and their script gives their texts, one after the other. -/
theorem Shows.gives_run {dataName : String} {data : Json}
    (h : Shows reply ⟨dataName, data⟩ assigned s program s')
    (hnodes : ∀ n ∈ program, completeNode n = true) :
    ∃ script, Script.ofProgram program = .ok script ∧
      Gives reply s (script.run dataName data) (String.join (program.map (nodeText assigned)))
        s' := by
  obtain ⟨ts, outputs, hcollected, hgives⟩ := h.collected 0 0
  have hcode := ne_code_of_completeNode hnodes
  have hrun := Script.execAll_emits [] outputs ⟨dataName, data⟩ ⟨[[]], ""⟩
  refine ⟨⟨(List.range' 0 outputs.length).map .emit, outputs⟩,
    Script.ofProgram_eq_ok_iff.2 ⟨ts, hcollected, hcollected.builds hcode⟩, ?_⟩
  simp only [List.nil_append, List.length_nil, String.empty_append] at hrun
  rw [Script.Tree.run, hrun, bind_assoc]
  exact hgives.bind rfl

end

/-- The body for a template without markers gives its text. -/
theorem run?_fixed (source : String) :
    run? [] (code "::std::string::String::from" ++ within .round [textToken source]) =
      some source := by
  have hpath : code "::std::string::String::from" = pathTokens textPath := by
    have hcomplete : Complete "::std::string::String::from".toList (pathTokens textPath) :=
      complete_function (f := textFunction) (by simp [functions])
    rw [code, tokens?_of_complete hcomplete]
    rfl
  have hread := readLiteral?_shownLiteral source ""
  rw [String.append_empty] at hread
  have htext : text? [] [textToken source] = some (source, []) := by
    rw [textToken, text?, hread]
    rfl
  rw [hpath]
  exact run?_text rfl htext

/-- The tokens of a generated function around those of its body. -/
def functionAround (word : String) (o : Options) (tokens : List Token) : List Token :=
  code "#[allow(unused_mut, unused_variables)] pub fn" ++ [.word word] ++
    within .round (.word o.parameter :: code ":&" ++ o.type) ++
    code "-> ::std::string::String" ++ within .curly tokens

/-- A template with a body gives a function. -/
theorem functionTokens_of_body {name word source : String} {o : Options} {tokens : List Token}
    (hname : functionName? name = some word)
    (hbody : bodyTokens? o.delimiters source = some tokens) :
    functionTokens name source o = .ok (functionAround word o tokens) := by
  rw [functionTokens, hname]
  dsimp only
  rw [hbody]
  rfl

/-- **A generated function and a renderer write the same text.** Let a template be read as
texts and as values of complete expressions, and let a text be assigned to each expression
that rendering comes to there. Then a function is generated for the template and a renderer
compiled, and rendering gives the text that the body of the function gives if its
expressions have the texts that are assigned to them. -/
theorem generated_agrees_rendered {κ : Type} [TemplateCache κ] {c : Compiler} {o : Options}
    {name word source : String} {assigned : String → String} {files : Files} {depth : Nat}
    {data : Json} {cache cache' : Option κ} (hengine : c.engine = Script.engine)
    (hdelimiters : o.delimiters = c.config.delimiters) (hname : functionName? name = some word)
    (hnodes : ∀ n ∈ nodes c.config.delimiters source, completeNode n = true)
    (hshows : Shows (includePartial files depth c) ⟨c.config.effectiveDataName, data⟩ assigned cache
      (nodes c.config.delimiters source) cache') :
    ∃ tokens renderer text,
      functionTokens name source o = .ok (functionAround word o tokens) ∧
      run? (displays assigned (nodes c.config.delimiters source)) tokens = some text ∧
      c.compile source = .ok renderer ∧
      renderer.render files depth data cache = (.done text, cache') := by
  have hbuild := build?_eq_nodes c.config.delimiters source
  cases hmarker : (nodes c.config.delimiters source).any Node.isMarker with
  | false =>
    rw [hmarker, if_neg Bool.false_ne_true] at hbuild
    obtain ⟨hdisplays, rfl⟩ := hshows.of_texts hmarker
    refine ⟨code "::std::string::String::from" ++ within .round [textToken source], .fixed source,
      source, functionTokens_of_body hname ?_, ?_, ?_, rfl⟩
    · rw [bodyTokens?, hdelimiters, hbuild]
    · rw [hdisplays]
      exact run?_fixed source
    · rw [Compiler.compile, hbuild]
  | true =>
    rw [hmarker, if_pos rfl] at hbuild
    obtain ⟨script, hscript, hgives⟩ := hshows.gives_run hnodes
    cases hprogram : nodes c.config.delimiters source with
    | nil =>
      rw [hprogram] at hmarker
      cases hmarker
    | cons node rest =>
      rw [hprogram] at hnodes hbuild hscript hgives
      obtain ⟨tokens, hbody, hrun⟩ := run?_body assigned hnodes
      refine ⟨tokens, .program (script.run c.config.effectiveDataName) c, _,
        functionTokens_of_body hname ?_, hrun,
        Compiler.compile_of_ofProgram hengine hbuild hscript, hgives⟩
      rw [bodyTokens?, hdelimiters, hbuild]
      exact hbody

/-- A mark of byte order, a value that is escaped and trimmed, and a text. -/
theorem generated_agrees_rendered_greeting :
    let c : Compiler := ⟨.standard, Script.engine, false⟩
    let source := "\ufeff[[= z.name >>]]!\n"
    let program : Program := [.value " z.name " true .blanks, .literal "!\n"]
    nodes c.config.delimiters source = program ∧
      ∃ tokens renderer text,
        functionTokens "greeting" source .standard =
          .ok (functionAround "greeting" .standard tokens) ∧
        run? (displays (fun _ => "<Ada>\n") program) tokens = some text ∧
        c.compile source = .ok renderer ∧
        renderer.render ⟨"", []⟩ 0 (.object [("name", .string "<Ada>\n")])
          (none : Option MemoryCache) = (.done text, none) := by
  intro c source program
  have hprogram : nodes c.config.delimiters source = program := by decide +kernel
  have hshows : Shows (includePartial ⟨"", []⟩ 0 c)
      ⟨c.config.effectiveDataName, .object [("name", .string "<Ada>\n")]⟩ (fun _ => "<Ada>\n")
      (none : Option MemoryCache) program none := by
    have htree : Script.parseValue " z.name " = .ok (.member (.ident "z") "name") :=
      Script.parseValue_of_print rfl (by decide +kernel)
    have hvalue : Gives (includePartial ⟨"", []⟩ 0 c) (none : Option MemoryCache)
        (Script.eval ⟨c.config.effectiveDataName, .object [("name", .string "<Ada>\n")]⟩ [[]]
          (.member (.ident "z") "name")) (.string "<Ada>\n") none :=
      Script.gives_field "name" (Script.gives_data rfl)
    exact .value htree hvalue (by rw [Script.display]) (.literal .nil)
  rw [← hprogram] at hshows
  have hname : functionName? "greeting" = some "greeting" := by decide +kernel
  have hnodes : ∀ n ∈ nodes c.config.delimiters source, completeNode n = true := by
    rw [hprogram]
    decide +kernel
  have hagree := generated_agrees_rendered (o := .standard) rfl rfl hname hnodes hshows
  rw [hprogram] at hagree
  exact ⟨hprogram, hagree⟩

end Stencil.Codegen
