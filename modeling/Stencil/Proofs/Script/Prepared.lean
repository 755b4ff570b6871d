import Stencil.Proofs.Script.EmitOrder
import Stencil.Proofs.Script.Print
import Stencil.Script.Engine

/-!
# Stencil.Proofs.Script.Prepared

What is made of templates whose code is written as it would be printed. Their tokens can
be compared with the printed ones, and that the parser undoes printing gives the trees
(`parseValue_of_print`, `ofProgram_of_print`), so that nothing needs to be parsed in order
to know them.
-/

namespace Stencil.Script

open Parse

/-! ## trees -/

/-- The tree of a value whose tokens are those that are printed for it. -/
theorem parseValue_of_print {expr : String} {e : Expr} (h : printable e = true)
    (htoks : (tokens 0 expr).toOption.map (·.map Token.tok) = some (print e)) :
    parseValue expr = .ok e := by
  obtain ⟨ts, hts, hprint⟩ := Except.exists_of_toOption_map htoks
  rw [parseValue, hts, Except.ok_bind, expressionOnly_of_print h hprint]
  rfl

/-- A node has one output. -/
theorem OutputOf.unique : Relator.RightUnique OutputOf := by
  intro node o o' h h'
  cases h with
  | text s =>
    cases h'
    rfl
  | value escape trim htree =>
    cases h' with
    | value escape' trim' htree' =>
      rw [Except.ok.inj (htree.symm.trans htree')]

/-- The script of nodes whose tokens are those that are printed for its statements. -/
theorem ofProgram_of_print {program : Program} {script : Tree}
    (h : printableStatements script.body = true) (hnested : wellNestedAll script.body = true)
    (htoks : (collect 0 0 program).toOption.map (fun read => read.1.map Token.tok) =
      some (printStatements script.body))
    (houtputs : List.Forall₂ OutputOf (program.filter Node.writes) script.outputs) :
    ofProgram program = .ok script := by
  obtain ⟨⟨ts, outputs⟩, hcollect, hprint⟩ := Except.exists_of_toOption_map htoks
  have hcollected := collect_eq_ok_iff.1 hcollect
  have heq : outputs = script.outputs :=
    List.right_unique_forall₂' OutputOf.unique hcollected.forall₂_filter houtputs
  rw [ofProgram, hcollect, Except.ok_bind]
  dsimp only
  rw [statements_of_print h hnested hprint, heq]
  rfl

end Stencil.Script

namespace Stencil

/-- A template with markers is made a renderer of its script. -/
theorem Compiler.compile_of_ofProgram {c : Compiler} {source : String} {program : Program}
    {script : Script.Tree} (hengine : c.engine = Script.engine)
    (hbuild : Program.build? c.config.delimiters source = some program)
    (hscript : Script.ofProgram program = .ok script) :
    c.compile source = .ok (.program (script.run c.config.effectiveDataName) c) := by
  simp only [Compiler.compile, hbuild, hengine, Script.engine, hscript]
  rfl

end Stencil
