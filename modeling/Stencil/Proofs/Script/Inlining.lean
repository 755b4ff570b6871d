import Stencil.Proofs.Cache.Transparency
import Stencil.Proofs.Script.Joining
import Stencil.Proofs.Script.Scopes
import Stencil.Proofs.Script.Separation
import Stencil.Script.Engine

/-!
# Stencil.Proofs.Script.Inlining

A partial in the place where it is included. A partial runs with variables and a
text of its own, and what it writes is written where it is included. Its
statements as a block do the same: they see the variables of the template below
their own, but if none of these has a name of the partial, they do not notice
them (`execAll_local`).

1. The marker asks for the partial and writes its text (`exec_include`).
2. The block writes the text that the script of the partial gives (`exec_inlined`).
3. Without a cache, asking for the partial is running that script, one level of
   inclusion further down (`Partial.answer_includeText`).
-/

namespace Stencil.Script

open Text
open Parse
open Rendering (Outcome answer_map answer_matches answer_agrees)

/-! ## the marker -/

/-- The call that includes the partial `name` with the data. -/
def includeCall (name dataName : String) : Expr :=
  .call (.ident "include") [.literal (.string name), .ident dataName]

/-- An operand that stands by itself in a statement or in a list of arguments. -/
theorem reads_operand {t : Token} {ts r : List Token} {e : Expr} (hop : unaryOp? t.tok = none)
    (h : Reads .primary (t :: ts) e r)
    (hnext : Next (fun tok => tok = .punct .comma ∨ tok.ends = true) r) :
    Reads .expression (t :: ts) e r := by
  have hcases : Next (fun tok => tok = .punct .comma ∨ (∃ index, tok = .emit index) ∨
      tok = .punct .rbrace ∨ tok = .punct .rparen) r :=
    hnext.imp fun tok htok => htok.imp_right Tok.cases_of_ends
  have hbare : Reads (.postfixRest e) r e r :=
    .bare (hcases.imp (by rintro tok (rfl | ⟨index, rfl⟩ | rfl | rfl) <;> simp))
  have hstop : Reads (.binaryRest 0 e) r e r :=
    .stop (hcases.imp (by rintro tok (rfl | ⟨index, rfl⟩ | rfl | rfl) <;> simp [binaryOp?]))
  exact .plain (.binary (.operand hop (.postfixed h hbare)) hstop)
    (hcases.imp (by rintro tok (rfl | ⟨index, rfl⟩ | rfl | rfl) <;> simp))

/-- The code of the marker is read as the call. -/
theorem parseValue_include {name dataName : String} {body : List Char}
    (hspelled : Spelled '\'' body name.toList) (hword : IsWord dataName)
    (hname : Keyword.ofName? dataName = none) :
    parseValue (" include('" ++ String.ofList body ++ "', " ++ dataName ++ ") ") =
      .ok (includeCall name dataName) := by
  have hinclude : IsWord "include" :=
    ⟨'i', ['n', 'c', 'l', 'u', 'd', 'e'], rfl, rfl, rfl⟩
  have hcode : (" include('" ++ String.ofList body ++ "', " ++ dataName ++ ") ").toList =
      ' ' :: ("include".toList ++ '(' :: '\'' :: (body ++ '\'' :: ',' :: ' ' ::
        (dataName.toList ++ [')', ' ']))) := by simp
  have hlexed : Lexed (" include('" ++ String.ofList body ++ "', " ++ dataName ++ ") ").toList
      [.space, .word "include", .mark .lparen, .quoted body name.toList, .mark .comma, .space,
        .word dataName, .mark .rparen, .space] := by
    rw [hcode]
    exact lexed_space (lexed_word hinclude rfl (lexed_mark .lparen (by decide)
      (lexed_quoted hspelled (lexed_mark .comma (by decide) (lexed_space
        (lexed_word hword rfl (lexed_mark .rparen (by decide) (lexed_space .nil))))))))
  refine parseValue_eq_ok_iff.2 ⟨_, hlexed, ?_⟩
  simp only [placed_nil, placed_word, placed_space, placed_mark, placed_quoted,
    String.ofList_toList]
  exact .plain (.binary (.operand rfl (.postfixed (.ident rfl) (.call
    (.item (by simp) (reads_operand rfl .string (next_cons.2 (.inl rfl)))
      (.lastItem (by simp) (by simp) (reads_operand rfl (.ident hname) (next_cons.2 (.inr rfl)))))
        (.bare (next_nil _))))) (.stop (next_nil _))) (next_nil _)

/-! ## running both -/

/-- The frame after a text was written. -/
def Frame.write (frame : Frame) (text : String) : Frame := { frame with text := frame.text ++ text }

section
variable {name dataName : String} {data : Json} {outputs : List Output} {index : Nat}
  {frame : Frame}

/-- The marker asks for the partial and writes its text. -/
theorem exec_include
    (hget : outputs[index]? = some (.value (includeCall name dataName) false .none))
    (hne : dataName ≠ "include") (hlacks : Lacks frame.scopes ["include", dataName]) :
    exec outputs ⟨dataName, data⟩ (.emit index) frame =
      frame.write <$> Rendering.includeText name data := by
  have hinclude : frame.scopes.find? "include" = none := hlacks _ (by simp)
  have hdata : frame.scopes.find? dataName = none := hlacks _ (by simp)
  have hbound : isBound ⟨dataName, data⟩ frame.scopes "include" = false := by
    simp [isBound, hinclude, Ne.symm hne]
  have hvalue : nameValue ⟨dataName, data⟩ frame.scopes dataName = .ok data := by
    simp [nameValue, hdata]
  have hargs : evalItems ⟨dataName, data⟩ frame.scopes [.literal (.string name), .ident dataName] =
      pure [.string name, data] := by
    rw [evalItems, evalItems, evalItems, eval, eval, hvalue]
    rfl
  have heval : eval ⟨dataName, data⟩ frame.scopes (includeCall name dataName) =
      Json.string <$> Rendering.includeText name data := by
    rw [includeCall, eval, hbound, hargs]
    rfl
  have htext : outputText ⟨dataName, data⟩ frame.scopes
      (.value (includeCall name dataName) false .none) = Rendering.includeText name data := by
    rw [outputText, heval, bind_map_left]
    exact Rendering.bind_done _
  rw [exec_emit, hget]
  dsimp only
  rw [htext]
  rfl

/-- The statements of the partial as a block write what its script gives. -/
theorem exec_inlined {program : Program} {script : Tree} (hscript : ofProgram program = .ok script)
    (hbody : Lacks frame.scopes (namesOfAll script.body))
    (houtputs : ∀ o ∈ script.outputs, Lacks frame.scopes o.names) :
    exec (outputs ++ script.outputs) ⟨dataName, data⟩
        (.block (shiftAll outputs.length script.body)) frame =
      frame.write <$> script.run dataName data := by
  have hlocal : Local frame.scopes frame.text
      (execAll script.outputs ⟨dataName, data⟩ script.body) := execAll_local _ _ houtputs _ hbody
  have hshift := execAll_of_ofProgram hscript outputs [] ⟨dataName, data⟩
  rw [List.append_nil] at hshift
  have hstart : ({ frame with scopes := [] :: frame.scopes } : Frame) =
      Frame.within 1 frame.scopes frame.text ⟨[[]], ""⟩ := by
    simp [Frame.within]
  rw [exec_block, inScope, hshift, hstart, hlocal.within 0 _ (by simp), Tree.run, map_bind,
    bind_map_left]
  refine (hlocal.length _).bind_congr fun after hafter => ?_
  obtain ⟨scope, hscopes⟩ := List.length_eq_one_iff.1 hafter
  simp [Frame.within, Frame.write, hscopes]

end

/-! ## partials without a cache -/

/-- A partial that has markers and compiles. -/
structure Partial (files : Files) (c : Compiler) (name : String) where
  octets : List UInt8
  source : String
  program : Program
  script : Tree
  read : files.read (c.resolve name) = .ok octets
  text : ofUtf8? octets = some source
  marked : Program.build? c.config.delimiters source = some program
  compiled : ofProgram program = .ok script

/-- The variables that a script reads or assigns to. -/
def Tree.names (script : Tree) : List String :=
  namesOfAll script.body ++ script.outputs.flatMap Output.names

/-- A rendering ends in `o` if partials are compiled by `c` without a cache and may be
nested deeply enough. -/
def Ends {α : Type} (files : Files) (c : Compiler) (r : Rendering α) (o : Outcome α) : Prop :=
  o ≠ .tooDeep ∧ ∃ depth, (r.answer (includePartial files depth c) (none : Option Cache)).1 = o

section
variable {α : Type} {files : Files} {c : Compiler} {name : String}

/-- A rendering that ends within a bound ends in the same way within a greater one. -/
theorem answer_of_le {depth more : Nat} (hle : depth ≤ more) {r : Rendering α} {o : Outcome α}
    (ho : o ≠ .tooDeep)
    (h : (r.answer (includePartial files depth c) (none : Option Cache)).1 = o) :
    (r.answer (includePartial files more c) (none : Option Cache)).1 = o := by
  subst h
  rw [answer_agrees (includePartial_agrees files hle c) r none ho]

/-- Without a cache it does not matter whether a compiler would use one. -/
theorem answer_uncached (depth : Nat) (r : Rendering α) :
    (r.answer (includePartial files depth c.uncached) (none : Option Cache)).1 =
      (r.answer (includePartial files depth c) (none : Option Cache)).1 := by
  have honest : TemplateCache.Honest (⟨.memory .empty, []⟩ : Shared Cache) :=
    Shared.honest rfl (by simp)
  have hnone : Sound files c (⟨.memory .empty, []⟩ : Shared Cache) none := nofun
  have halone : ∀ e : Compiler, e.uncached = c.uncached →
      (r.answer (includePartial files depth c) (none : Option (Shared Cache))).1 =
        (r.answer (includePartial files depth e) (none : Option Cache)).1 := fun e he =>
    (answer_matches (fun name data _ _ h =>
      includePartial_matches honest depth rfl he name data h) r ⟨hnone, rfl⟩).1
  exact (halone c.uncached rfl).symm.trans (halone c rfl)

theorem Partial.fetch (p : Partial files c name) (hengine : c.engine = engine) :
    c.fetch files name (none : Option Cache) =
      (.ok (.program (p.script.run c.config.effectiveDataName) c.uncached), none) := by
  have hcompile : c.compileFile files (c.resolve name) =
      .ok (.program (p.script.run c.config.effectiveDataName) c) := by
    simp only [Compiler.compileFile, p.read, Compiler.compileOctets, p.text, Compiler.compile,
      p.marked, hengine, engine, p.compiled]
    rfl
  rw [Compiler.fetch_of_none (by simp [Compiler.liveCache]), Compiler.compileFile_uncached,
    hcompile]
  rfl

/-- Asking for a partial is running its script one level further down. -/
theorem Partial.answer_includeText (p : Partial files c name) (hengine : c.engine = engine)
    (depth : Nat) (data : Json) :
    ((Rendering.includeText name data).answer (includePartial files (depth + 1) c)
        (none : Option Cache)).1 =
      ((p.script.run c.config.effectiveDataName data).answer (includePartial files depth c)
        (none : Option Cache)).1 := by
  rw [Rendering.answer_includeText, includePartial, p.fetch hengine]
  exact answer_uncached depth _

/-- A rendering that others ask for one level up ends as they do. -/
theorem Ends.iff_of_deeper {r r' : Rendering α} (h : ∀ depth,
      (r.answer (includePartial files (depth + 1) c) (none : Option Cache)).1 =
        (r'.answer (includePartial files depth c) (none : Option Cache)).1) (o : Outcome α) :
    Ends files c r o ↔ Ends files c r' o := by
  constructor
  · rintro ⟨ho, n, hn⟩
    exact ⟨ho, n, (h n).symm.trans (answer_of_le (Nat.le_succ n) ho hn)⟩
  · rintro ⟨ho, n, hn⟩
    exact ⟨ho, n + 1, (h n).trans hn⟩

theorem Ends.exists_of_map {β : Type} {f : α → β} {r : Rendering α} {o : Outcome β}
    (h : Ends files c (f <$> r) o) : (∃ a, o = .done (f a)) ∨ ∃ e, o = .fail e := by
  obtain ⟨ho, n, hend⟩ := h
  rw [answer_map] at hend
  rcases hr : r.answer (includePartial files n c) (none : Option Cache) with ⟨ended, cache⟩
  rw [hr] at hend
  cases ended with
  | done a => exact .inl ⟨a, hend.symm⟩
  | fail e => exact .inr ⟨e, hend.symm⟩
  | tooDeep => exact absurd hend.symm ho

end

/-- **Including a partial is inlining it.** The code of the marker that includes a
partial is read as a call. Running the marker, and running a block of the partial's own
statements in its place, end in the same way if one of them ends: both write the same
text and leave all variables as they were, or both fail with the same error. No
variable in scope may have the name of the data, that of the function, or one that the
partial reads or assigns to. -/
theorem include_eq_inlined :
    (∀ {name dataName : String} {body : List Char}, Spelled '\'' body name.toList →
      IsWord dataName → Keyword.ofName? dataName = none →
      parseValue (" include('" ++ String.ofList body ++ "', " ++ dataName ++ ") ") =
        .ok (includeCall name dataName)) ∧
    ∀ {files : Files} {c : Compiler} {name : String} (p : Partial files c name)
      {outputs : List Output} {index : Nat} {frame : Frame} (data : Json), c.engine = engine →
      let dataName := c.config.effectiveDataName
      outputs[index]? = some (.value (includeCall name dataName) false .none) →
      dataName ≠ "include" → Lacks frame.scopes ("include" :: dataName :: p.script.names) →
      let marker := exec outputs ⟨dataName, data⟩ (.emit index) frame
      let block := exec (outputs ++ p.script.outputs) ⟨dataName, data⟩
        (.block (shiftAll outputs.length p.script.body)) frame
      ∀ o, Ends files c marker o ∨ Ends files c block o →
        Ends files c marker o ∧ Ends files c block o ∧
          ((∃ text, o = .done (frame.write text)) ∨ ∃ e, o = .fail e) := by
  refine ⟨parseValue_include, ?_⟩
  intro files c name p outputs index frame data hengine dataName hget hne hlacks marker block o ho
  have hnames : Lacks frame.scopes (["include", dataName] ++ p.script.names) := hlacks
  have hmarker : marker = frame.write <$> Rendering.includeText name data :=
    exec_include hget hne hnames.left
  have hblock : block = frame.write <$> p.script.run dataName data :=
    exec_inlined p.compiled hnames.right.left fun o ho x hx =>
      hnames.right.right x (List.mem_flatMap.2 ⟨o, ho, hx⟩)
  have hiff : Ends files c marker o ↔ Ends files c block o := by
    refine Ends.iff_of_deeper (fun depth => ?_) o
    rw [hmarker, hblock, answer_map, answer_map, p.answer_includeText hengine]
  have hends : Ends files c block o := ho.elim hiff.1 id
  refine ⟨hiff.2 hends, hends, ?_⟩
  rw [hblock] at hends
  exact hends.exists_of_map

/-- A partial with a variable of its own, in a template with another one. -/
theorem include_eq_inlined_page : ∃ (files : Files) (c : Compiler) (p : Partial files c "p"),
    let outputs := [.value (includeCall "p" "z") false .none]
    let frame : Frame := ⟨[[("x", .int 1)], []], "t"⟩
    parseValue " include('p', z) " = .ok (includeCall "p" "z") ∧
    Ends files c (exec outputs ⟨"z", .string "1"⟩ (.emit 0) frame) (.done (frame.write "<1>")) ∧
    Ends files c (exec (outputs ++ p.script.outputs) ⟨"z", .string "1"⟩
      (.block (shiftAll 1 p.script.body)) frame) (.done (frame.write "<1>")) := by
  let source := "[[ let y = z ]]<[[= y ]]>"
  let program : Program :=
    [.code " let y = z ", .literal "<", .value " y " true .none, .literal ">"]
  let script : Tree := ⟨[.declare "y" (some (.ident "z")), .emit 0, .emit 1, .emit 2],
    [.text "<", .value (.ident "y") true .none, .text ">"]⟩
  let files : Files := ⟨"/t", [(["p.ztpl"], .file (utf8 source))]⟩
  let c : Compiler := ⟨{ Config.standard with basePath := some "/t" }, engine, false⟩
  have hlet : IsWord "let" := ⟨'l', ['e', 't'], rfl, rfl, rfl⟩
  have hy : IsWord "y" := ⟨'y', [], rfl, rfl, rfl⟩
  have hz : IsWord "z" := ⟨'z', [], rfl, rfl, rfl⟩
  have hcode : Lexed " let y = z ".toList [.space, .word "let", .space, .word "y", .space,
      .mark .assign, .space, .word "z", .space] :=
    lexed_space (lexed_word hlet rfl (lexed_space (lexed_word hy rfl (lexed_space
      (.cons rfl rfl (lexed_space (lexed_word hz rfl (lexed_space .nil))))))))
  have hvalue : parseValue " y " = .ok (.ident "y") :=
    parseValue_eq_ok_iff.2 ⟨_, lexed_space (lexed_word hy rfl (lexed_space .nil)),
      reads_operand rfl (.ident rfl) (next_nil _)⟩
  have hscript : ofProgram program = .ok script :=
    ofProgram_eq_ok_iff.2 ⟨_, .code (tokens_of_lexed hcode 0)
      (.literal (.value hvalue (.literal .nil))),
        .next (.declareAs rfl rfl (reads_operand rfl (.ident rfl) (next_cons.2 (.inr rfl))) rfl)
          (.next .emit (.next .emit (.next .emit .done)))⟩
  let p : Partial files c "p" :=
    { octets := utf8 source, source, program, script, read := by decide +kernel,
      text := ofUtf8?_utf8 source, marked := by decide +kernel, compiled := hscript }
  let frame : Frame := ⟨[[("x", .int 1)], []], "t"⟩
  have hblock : Ends files c (exec ([.value (includeCall "p" "z") false .none] ++ script.outputs)
      ⟨"z", .string "1"⟩ (.block (shiftAll 1 script.body)) frame) (.done (frame.write "<1>")) :=
    ⟨by simp, 0, rfl⟩
  have hlacks : Lacks frame.scopes ["include", "z", "z", "y"] := by
    simp [Lacks, frame, Scopes.find?]
  have hspelled : Spelled '\'' ['p'] "p".toList := .plain (by decide) (by decide) .nil
  have hparse := include_eq_inlined.1 hspelled hz rfl
  have hget : [Output.value (includeCall "p" "z") false .none][0]? =
      some (.value (includeCall "p" c.config.effectiveDataName) false .none) := rfl
  obtain ⟨hmarker, -, -⟩ := include_eq_inlined.2 p (.string "1") rfl hget (by decide) hlacks _
    (.inr hblock)
  exact ⟨files, c, p, hparse, hmarker, hblock⟩

end Stencil.Script
