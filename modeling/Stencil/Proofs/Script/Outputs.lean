import Stencil.Script.Run

/-!
# Stencil.Proofs.Script.Outputs

Statements name outputs by their numbers. `Stmt.shift` gives them other numbers,
for a script that has more outputs in front; `Stmt.emits` lists them in source
order. A statement that is run with other outputs does the same if the outputs
that it names are the same (`exec_shift`).
-/

namespace Stencil.Script

/-! ## numbers of outputs -/

mutual

/-- A statement after `n` more outputs. -/
def Stmt.shift (n : Nat) : Stmt → Stmt
  | .emit index => .emit (n + index)
  | .expr e => .expr e
  | .declare name init => .declare name init
  | .assign name op e => .assign name op e
  | .branch condition yes none => .branch condition (yes.shift n) none
  | .branch condition yes (some no) => .branch condition (yes.shift n) (some (no.shift n))
  | .forOf name e body => .forOf name e (body.shift n)
  | .forIn name e body => .forIn name e (body.shift n)
  | .block body => .block (shiftAll n body)
  | .empty => .empty

/-- Statements after `n` more outputs. -/
def shiftAll (n : Nat) : List Stmt → List Stmt
  | [] => []
  | s :: rest => s.shift n :: shiftAll n rest

end

mutual

theorem shift_zero : (s : Stmt) → s.shift 0 = s
  | .emit index => by rw [Stmt.shift, Nat.zero_add]
  | .expr e => by rw [Stmt.shift]
  | .declare name init => by rw [Stmt.shift]
  | .assign name op e => by rw [Stmt.shift]
  | .branch condition yes none => by rw [Stmt.shift, shift_zero yes]
  | .branch condition yes (some no) => by rw [Stmt.shift, shift_zero yes, shift_zero no]
  | .forOf name e body => by rw [Stmt.shift, shift_zero body]
  | .forIn name e body => by rw [Stmt.shift, shift_zero body]
  | .block body => by rw [Stmt.shift, shiftAll_zero body]
  | .empty => by rw [Stmt.shift]

theorem shiftAll_zero : (body : List Stmt) → shiftAll 0 body = body
  | [] => by rw [shiftAll]
  | s :: rest => by rw [shiftAll, shift_zero s, shiftAll_zero rest]

end

mutual

/-- The numbers of the outputs in a statement, in source order. -/
def Stmt.emits : Stmt → List Nat
  | .emit index => [index]
  | .expr _ => []
  | .declare _ _ => []
  | .assign _ _ _ => []
  | .branch _ yes none => yes.emits
  | .branch _ yes (some no) => yes.emits ++ no.emits
  | .forOf _ _ body => body.emits
  | .forIn _ _ body => body.emits
  | .block body => emitsAll body
  | .empty => []

/-- The numbers of the outputs in statements, in source order. -/
def emitsAll : List Stmt → List Nat
  | [] => []
  | s :: rest => s.emits ++ emitsAll rest

end

/-! ## running -/

section
variable {outputs outputs' : List Output} {n : Nat} (ctx : Context)

mutual

/-- A statement does the same where its outputs are found under other numbers. -/
theorem exec_shift : (s : Stmt) → (∀ i ∈ s.emits, outputs[n + i]? = outputs'[i]?) →
    exec outputs ctx (s.shift n) = exec outputs' ctx s
  | .emit index, h => by
    funext frame
    rw [Stmt.shift, exec, exec, h index (by rw [Stmt.emits]; exact List.mem_singleton_self _)]
  | .expr e, h => by
    funext frame
    rw [Stmt.shift, exec, exec]
  | .declare name none, h => by
    funext frame
    rw [Stmt.shift, exec, exec]
  | .declare name (some e), h => by
    funext frame
    rw [Stmt.shift, exec, exec]
  | .assign name op e, h => by
    funext frame
    rw [Stmt.shift, exec, exec]
  | .branch condition yes none, h => by
    have hyes := exec_shift yes h
    funext frame
    rw [Stmt.shift, exec, exec, hyes]
  | .branch condition yes (some no), h => by
    have hyes := exec_shift yes fun i hi => h i (List.mem_append_left _ hi)
    have hno := exec_shift no fun i hi => h i (List.mem_append_right _ hi)
    funext frame
    rw [Stmt.shift, exec, exec, hyes, hno]
  | .forOf name e body, h => by
    have hbody := exec_shift body h
    funext frame
    rw [Stmt.shift, exec, exec, hbody]
  | .forIn name e body, h => by
    have hbody := exec_shift body h
    funext frame
    rw [Stmt.shift, exec, exec, hbody]
  | .block body, h => by
    have hbody := execAll_shift body h
    funext frame
    rw [Stmt.shift, exec, exec, hbody]
  | .empty, h => by
    funext frame
    rw [Stmt.shift, exec, exec]

/-- Statements do the same where their outputs are found under other numbers. -/
theorem execAll_shift : (body : List Stmt) → (∀ i ∈ emitsAll body, outputs[n + i]? = outputs'[i]?) →
    execAll outputs ctx (shiftAll n body) = execAll outputs' ctx body
  | [], h => by
    funext frame
    rw [shiftAll, execAll, execAll]
  | s :: rest, h => by
    have hs := exec_shift s fun i hi => h i (List.mem_append_left _ hi)
    have hrest := execAll_shift rest fun i hi => h i (List.mem_append_right _ hi)
    funext frame
    rw [shiftAll, execAll, execAll, hs, hrest]

end

end

/-- Statements run one after the other. -/
theorem execAll_append (outputs : List Output) (ctx : Context) (body body' : List Stmt)
    (frame : Frame) :
    execAll outputs ctx (body ++ body') frame =
      execAll outputs ctx body frame >>= execAll outputs ctx body' := by
  induction body generalizing frame with
  | nil => rw [List.nil_append, execAll]; rfl
  | cons s rest ih =>
    have hrest : execAll outputs ctx (rest ++ body') =
        fun frame => execAll outputs ctx rest frame >>= execAll outputs ctx body' := funext ih
    rw [List.cons_append, execAll, execAll, hrest]
    exact (Rendering.bind_bind _ _ _).symm

end Stencil.Script
