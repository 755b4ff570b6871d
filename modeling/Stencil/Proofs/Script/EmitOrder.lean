import Stencil.Proofs.Script.Separation

/-!
# Stencil.Proofs.Script.EmitOrder

Every output has its place in the statements. The numbers of the outputs, met in
source order, are those from zero on, each once (`emitsAll_of_ofProgram`), and the
output of a number is what the node of that number among the texts and values is
(`Collected.forall₂_filter`).

So a run never asks for an output that is not there. What it would do then is left
open by `execOr`, which runs statements as `exec` does but for that: on statements
that name outputs only, the two are the same (`execOr_eq_exec`).
-/

namespace Stencil.Script

/-! ## running without an output -/

mutual

/-- Runs a statement, where `missing` is what happens if an output is asked for that is
not there. -/
def execOr (missing : Nat → Frame → Rendering Frame) (outputs : List Output) (ctx : Context) :
    Stmt → Frame → Rendering Frame
  | .emit index, frame =>
    match outputs[index]? with
    | none => missing index frame
    | some output => do
      let text ← outputText ctx frame.scopes output
      return { frame with text := frame.text ++ text }
  | .branch condition yes none, frame => do
    let c ← eval ctx frame.scopes condition
    if truthy c then inScope [] (execOr missing outputs ctx yes) frame else return frame
  | .branch condition yes (some no), frame => do
    let c ← eval ctx frame.scopes condition
    if truthy c then inScope [] (execOr missing outputs ctx yes) frame
    else inScope [] (execOr missing outputs ctx no) frame
  | .forOf name e body, frame => do
    let v ← eval ctx frame.scopes e
    let values ← ofResult (loopItems v)
    turns name (execOr missing outputs ctx body) values frame
  | .forIn name e body, frame => do
    let v ← eval ctx frame.scopes e
    turns name (execOr missing outputs ctx body) (loopKeys v) frame
  | .block body, frame => inScope [] (execAllOr missing outputs ctx body) frame
  | s, frame => exec outputs ctx s frame

/-- Runs statements one after the other in the same way. -/
def execAllOr (missing : Nat → Frame → Rendering Frame) (outputs : List Output) (ctx : Context) :
    List Stmt → Frame → Rendering Frame
  | [], frame => return frame
  | s :: rest, frame => do
    let after ← execOr missing outputs ctx s frame
    execAllOr missing outputs ctx rest after

end

section
variable (missing : Nat → Frame → Rendering Frame) {outputs : List Output} (ctx : Context)

mutual

/-- A statement that names outputs only never asks for another one. -/
theorem execOr_eq_exec : (s : Stmt) → (∀ i ∈ s.emits, i < outputs.length) →
    execOr missing outputs ctx s = exec outputs ctx s
  | .emit index, h => by
    have hmem : index ∈ (Stmt.emit index).emits := by
      rw [Stmt.emits]
      exact List.mem_singleton_self _
    have hlt : index < outputs.length := h index hmem
    have hget : outputs[index]? = some outputs[index] := List.getElem?_eq_getElem hlt
    funext frame
    rw [execOr, exec, hget]
  | .expr e, h => by
    funext frame
    rw [execOr]
    all_goals simp
  | .declare name init, h => by
    funext frame
    rw [execOr]
    all_goals simp
  | .assign name op e, h => by
    funext frame
    rw [execOr]
    all_goals simp
  | .branch condition yes none, h => by
    have hyes := execOr_eq_exec yes h
    funext frame
    rw [execOr, exec, hyes]
  | .branch condition yes (some no), h => by
    have hyes := execOr_eq_exec yes fun i hi => h i (List.mem_append_left _ hi)
    have hno := execOr_eq_exec no fun i hi => h i (List.mem_append_right _ hi)
    funext frame
    rw [execOr, exec, hyes, hno]
  | .forOf name e body, h => by
    have hbody := execOr_eq_exec body h
    funext frame
    rw [execOr, exec, hbody]
  | .forIn name e body, h => by
    have hbody := execOr_eq_exec body h
    funext frame
    rw [execOr, exec, hbody]
  | .block body, h => by
    have hbody := execAllOr_eq_execAll body h
    funext frame
    rw [execOr, exec, hbody]
  | .empty, h => by
    funext frame
    rw [execOr]
    all_goals simp

/-- Statements that name outputs only never ask for another one. -/
theorem execAllOr_eq_execAll : (body : List Stmt) → (∀ i ∈ emitsAll body, i < outputs.length) →
    execAllOr missing outputs ctx body = execAll outputs ctx body
  | [], h => by
    funext frame
    rw [execAllOr, execAll]
  | s :: rest, h => by
    have hs := execOr_eq_exec s fun i hi => h i (List.mem_append_left _ hi)
    have hrest := execAllOr_eq_execAll rest fun i hi => h i (List.mem_append_right _ hi)
    funext frame
    rw [execAllOr, execAll, hs, hrest]

end

end

/-- **Every output is written in its place.** The statements of accepted nodes, gone
through in source order, write the outputs from the first to the last, each once. There
are as many outputs as texts and values among the nodes, and each output is that of the
text or value of its number. So a run asks for no other output: whatever happens where
one is missing, the run is the same. -/
theorem outputs_in_place {program : Program} {script : Tree}
    (h : ofProgram program = .ok script) :
    emitsAll script.body = List.range (program.countP Node.writes) ∧
      script.outputs.length = program.countP Node.writes ∧
      List.Forall₂ OutputOf (program.filter Node.writes) script.outputs ∧
      ∀ missing ctx frame, execAllOr missing script.outputs ctx script.body frame =
        execAll script.outputs ctx script.body frame := by
  obtain ⟨ts, hcollected, -⟩ := ofProgram_eq_ok_iff.1 h
  have houtputs := hcollected.forall₂_filter
  have hlength : script.outputs.length = program.countP Node.writes := by
    rw [← houtputs.length_eq, List.countP_eq_length_filter]
  have hemits := emitsAll_of_ofProgram h
  have hbound : ∀ i ∈ emitsAll script.body, i < script.outputs.length := by
    intro i hi
    rw [hemits] at hi
    exact List.mem_range.1 hi
  refine ⟨?_, hlength, houtputs, fun missing ctx frame => ?_⟩
  · rw [hemits, hlength]
  · rw [execAllOr_eq_execAll missing ctx script.body hbound]

/-- Outputs as the bare branches of a conditional statement, as the body of a loop and
after it. -/
theorem outputs_in_place_page : ∃ script,
    ofProgram [.code "if (a) ", .literal "t", .code " else ", .value "a.b" true .none,
      .code "for (x in a) \x7b let y = x", .value "y" false .blanks, .code "\x7d",
      .literal "u"] = .ok script ∧
    emitsAll script.body = [0, 1, 2, 3] ∧ script.outputs.length = 4 ∧
    List.Forall₂ OutputOf [.literal "t", .value "a.b" true .none, .value "y" false .blanks,
      .literal "u"] script.outputs ∧
    ∀ frame, execAllOr (fun _ _ => failWith .notFunction) script.outputs ⟨"a", .null⟩ script.body
      frame = execAll script.outputs ⟨"a", .null⟩ script.body frame := by
  obtain ⟨script, hscript⟩ := Except.exists_of_isOk
    (show (ofProgram [.code "if (a) ", .literal "t", .code " else ", .value "a.b" true .none,
      .code "for (x in a) \x7b let y = x", .value "y" false .blanks, .code "\x7d",
      .literal "u"]).isOk = true by decide +kernel)
  obtain ⟨hemits, hlength, houtputs, hrun⟩ := outputs_in_place hscript
  exact ⟨script, hscript, hemits, hlength, houtputs, hrun _ _⟩

end Stencil.Script
