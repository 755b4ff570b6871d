import Mathlib.Data.List.Forall2
import Stencil.Proofs.Rendering
import Stencil.Proofs.Script.Continuation

/-!
# Stencil.Proofs.Script.Separation

Texts and values separate the statements of a template. The code of all nodes is
read as one list of tokens, but the token that stands for a text or a value ends
the statement before it, so the statements of the nodes in front are read as if
nothing followed, and those of the nodes after it as if nothing stood in front.

1. The tokens of a node list are those of its parts, the later ones moved
   (`collect_append`, `collect_move`).
2. They hold the numbers of the outputs in order (`numbers_collect`), and so do the
   statements that are made of them (`Builds.numbers`).
3. An accepted node list is read in the same way anywhere
   (`exists_of_ofProgram`), and does the same (`execAll_of_ofProgram`).
-/

namespace Stencil

/-- Whether a node is a text or a value. -/
def Node.writes : Node → Bool
  | .code _ => false
  | _ => true

namespace Script

open Text
open Parse

/-! ## numbers of outputs -/

/-- The number of the output that a token stands for. -/
def Tok.emitted? : Tok → Option Nat
  | .emit index => some index
  | _ => none

/-- The numbers of the outputs among tokens. -/
def numbers (ts : List Token) : List Nat := ts.filterMap fun t => t.tok.emitted?

/-- The outputs of two runs of tokens follow each other. -/
theorem numbers_append (ts ts' : List Token) : numbers (ts ++ ts') = numbers ts ++ numbers ts' :=
  List.filterMap_append

/-- A token that is no output adds none. -/
theorem numbers_cons {t : Token} {ts : List Token} (h : t.tok.emitted? = none) :
    numbers (t :: ts) = numbers ts := List.filterMap_cons_none h

namespace Parse

section
variable {tok : Tok}

/-- A binary operator is no output. -/
theorem emitted?_of_binaryOp? {op : BinaryOp × Nat} (h : binaryOp? tok = some op) :
    tok.emitted? = none := by
  cases tok with
  | emit index => cases h
  | _ => rfl

/-- A sign is no output. -/
theorem emitted?_of_unaryOp? {op : UnaryOp} (h : unaryOp? tok = some op) :
    tok.emitted? = none := by
  cases tok with
  | emit index => cases h
  | _ => rfl

/-- The name of an entry is no output. -/
theorem emitted?_of_entryKey? {key : String} (h : entryKey? tok = some key) :
    tok.emitted? = none := by
  cases tok with
  | emit index => cases h
  | _ => rfl

/-- An operator that assigns is no output. -/
theorem emitted?_of_assignOp? {op : AssignOp} (h : assignOp? tok = some op) :
    tok.emitted? = none := by
  cases tok with
  | emit index => cases h
  | _ => rfl

end

/-- Expressions hold no outputs. -/
theorem Reads.numbers {p : Phrase} {ts r : List Token} {v : p.Value} (h : Reads p ts v r) :
    numbers ts = numbers r := by
  induction h with
  | plain hcondition hnext ih => exact ih
  | conditional hcondition hyes hno ih ih₁ ih₂ => exact ih.trans (ih₁.trans ih₂)
  | binary hleft hrest ih ih₁ => exact ih.trans ih₁
  | stop hnext => rfl
  | operator hop hlt hright hrest ih ih₁ =>
    exact (numbers_cons (emitted?_of_binaryOp? hop)).trans (ih.trans ih₁)
  | operand hop hoperand ih => exact ih
  | sign hop hoperand ih => exact (numbers_cons (emitted?_of_unaryOp? hop)).trans ih
  | postfixed hprimary hrest ih ih₁ => exact ih.trans ih₁
  | bare hnext => rfl
  | member hrest ih => exact ih
  | index hkey hrest ih ih₁ => exact ih.trans ih₁
  | call hargs hrest ih ih₁ => exact ih.trans ih₁
  | noItems => rfl
  | lastItem hclose hcomma hitem ih => exact ih
  | item hclose hitem hrest ih ih₁ => exact ih.trans ih₁
  | noEntries => rfl
  | lastEntry hclose hentry ih => exact ih
  | entry hclose hentry hrest ih ih₁ => exact ih.trans ih₁
  | short hkey hnext => exact numbers_cons (emitted?_of_entryKey? hkey)
  | full hkey hvalue ih => exact (numbers_cons (emitted?_of_entryKey? hkey)).trans ih
  | number => rfl
  | string => rfl
  | ident hname => rfl
  | constant hk hvalue => rfl
  | parens hinner ih => exact ih
  | array hitems ih => exact ih
  | object hentries ih => exact ih

/-- Skipping a semicolon skips no output. -/
theorem numbers_skipSemicolon {r r' : List Token} (h : (skipSemicolon r).1 = r') :
    numbers r = numbers r' := by
  subst h
  unfold skipSemicolon
  split
  · next left hleft =>
    obtain ⟨r', hlt⟩ := left
    obtain ⟨o, rfl⟩ := exists_of_eat? hleft
    rfl
  · rfl

/-- The numbers of the outputs in a clause. -/
def emitsOf : (c : Clause) → c.Value → List Nat
  | .statement, s => s.emits
  | .statements, body => emitsAll body

/-- Statements hold the outputs of their tokens, in the same order. -/
theorem Builds.numbers {c : Clause} {ts r : List Token} {v : c.Value} (h : Builds c ts v r) :
    numbers ts = emitsOf c v ++ numbers r := by
  induction h with
  | emit =>
    rw [emitsOf, Stmt.emits]
    rfl
  | empty =>
    rw [emitsOf, Stmt.emits]
    rfl
  | block hbody ih =>
    rw [emitsOf, Stmt.emits]
    exact ih
  | branch hword hread hyes helse ih =>
    rw [emitsOf, Stmt.emits]
    exact hread.numbers.trans ih
  | branchElse hword hread hyes helse hno ih ih₁ =>
    rw [emitsOf, Stmt.emits, List.append_assoc]
    exact hread.numbers.trans (ih.trans (congrArg _ ih₁))
  | @loop front ts r₁ r word x kind e body o o₁ o₂ o₃ o₄ hword hfront hx hread hbody ih =>
    have hvalue : emitsOf .statement (kind.loop x e body) = body.emits := by
      cases kind <;> rw [emitsOf, LoopKind.loop, Stmt.emits]
    have hnone : Script.numbers front = [] := by
      rcases hfront with rfl | ⟨word, o, rfl, -⟩ <;> rfl
    rw [hvalue, numbers_cons rfl, numbers_cons rfl, numbers_append, hnone, List.nil_append]
    exact hread.numbers.trans ih
  | declare hword hx hnext hend =>
    rw [emitsOf, Stmt.emits, numbers_cons rfl, numbers_cons rfl]
    exact numbers_skipSemicolon hend
  | declareAs hword hx hread hend =>
    rw [emitsOf, Stmt.emits]
    exact hread.numbers.trans (numbers_skipSemicolon hend)
  | assign hx hop hread hend =>
    rw [emitsOf, Stmt.emits]
    exact (numbers_cons (emitted?_of_assignOp? hop)).trans
      (hread.numbers.trans (numbers_skipSemicolon hend))
  | expr hopens hread hend =>
    rw [emitsOf, Stmt.emits]
    exact hread.numbers.trans (numbers_skipSemicolon hend)
  | done =>
    rw [emitsOf, emitsAll]
    rfl
  | next hs hbody ih ih₁ =>
    rw [emitsOf, emitsAll, List.append_assoc]
    exact ih.trans (congrArg _ ih₁)

end Parse

/-! ## tokens of nodes -/

section
variable {base : Nat} {text : String} {ts : List Token}

/-- The tokens of code are those of its lexemes. -/
theorem exists_of_tokens (h : tokens base text = .ok ts) :
    ∃ ls, Lexed text.toList ls ∧ placed base ls = ts := by
  unfold tokens at h
  split at h
  · next ts' hts =>
    obtain rfl : ts' = ts := Except.ok.inj h
    exact tokensFrom_eq_ok_iff.1 hts
  · cases h

/-- Code in lexemes has their tokens. -/
theorem tokens_of_lexed {ls : List Lexeme} (h : Lexed text.toList ls) (base : Nat) :
    tokens base text = .ok (placed base ls) := by
  rw [tokens, tokensFrom_eq_ok_iff.2 ⟨ls, h, rfl⟩]

/-- Code elsewhere has the same tokens elsewhere. -/
theorem tokens_move (h : tokens base text = .ok ts) (n m : Nat) :
    tokens (m + base) text = .ok (ts.map (Token.move n m)) := by
  obtain ⟨ls, hlexed, rfl⟩ := exists_of_tokens h
  rw [tokens_of_lexed hlexed, placed_add n m base hlexed.formed]

/-- The tree of a value is that of its lexemes. -/
theorem parseValue_eq_ok_iff {expr : String} {tree : Expr} :
    parseValue expr = .ok tree ↔
      ∃ ls, Lexed expr.toList ls ∧ Reads .expression (placed 0 ls) tree [] := by
  constructor
  · intro h
    obtain ⟨ts, hts, h⟩ := Except.bind_eq_ok_iff.1 h
    obtain ⟨ls, hlexed, rfl⟩ := exists_of_tokens hts
    split at h
    · next tree' hread =>
      obtain rfl : tree' = tree := Except.ok.inj h
      exact ⟨ls, hlexed, expressionOnly_eq_ok_iff.1 hread⟩
    · cases h
  · rintro ⟨ls, hlexed, hreads⟩
    rw [parseValue, tokens_of_lexed hlexed, Except.ok_bind, expressionOnly_eq_ok_iff.2 hreads]
    rfl

/-- The tree of an expression is read wherever its lexemes stand, if nothing goes on with it. -/
theorem reads_placed {ls : List Lexeme} {tree : Expr} (hlexed : Lexed text.toList ls)
    (hreads : Reads .expression (placed 0 ls) tree []) {r : List Token} (hstops : Stops r)
    (base : Nat) : Reads .expression (placed base ls ++ r) tree r := by
  have hplaced : placed base ls = (placed 0 ls).map (Token.move 0 base) := by
    rw [← placed_add 0 base 0 hlexed.formed, Nat.add_zero]
  rw [hplaced]
  exact hreads.append (fun _ => hstops) 0 base

/-- Code holds no outputs. -/
theorem numbers_tokens (h : tokens base text = .ok ts) : numbers ts = [] := by
  obtain ⟨ls, hlexed, rfl⟩ := exists_of_tokens h
  have hformed := hlexed.formed
  clear h hlexed
  induction ls generalizing base with
  | nil => rfl
  | cons l ls ih =>
    obtain ⟨text, tok?⟩ := l
    have hfirst : Formed text tok? := hformed ⟨text, tok?⟩ (by simp)
    rw [placed, numbers_append, ih fun l hl => hformed l (by simp [hl])]
    cases hfirst <;> rfl

end

/-- The number of octets that nodes are made of. -/
def extent : Program → Nat
  | [] => 0
  | node :: rest => octets node.source.toList + extent rest

/-- The tokens and the outputs of nodes, the first of which has the offset `base`
and its output, if it has one, the number `index`. -/
inductive Collected : (base index : Nat) → Program → List Token → List Output → Prop where
  | nil {base index : Nat} : Collected base index [] [] []
  | code {base index : Nat} {text : String} {rest : Program} {ts more : List Token}
    {outputs : List Output} :
    tokens base text = .ok ts → Collected (base + octets text.toList) index rest more outputs →
    Collected base index (.code text :: rest) (ts ++ more) outputs
  | literal {base index : Nat} {text : String} {rest : Program} {more : List Token}
    {outputs : List Output} :
    Collected (base + octets text.toList) (index + 1) rest more outputs →
    Collected base index (.literal text :: rest) (⟨.emit index, base⟩ :: more)
      (.text text :: outputs)
  | value {base index : Nat} {expr : String} {escape : Bool} {trim : Trim} {tree : Expr}
    {rest : Program} {more : List Token} {outputs : List Output} :
    parseValue expr = .ok tree →
    Collected (base + octets expr.toList) (index + 1) rest more outputs →
    Collected base index (.value expr escape trim :: rest) (⟨.emit index, base⟩ :: more)
      (.value tree escape trim :: outputs)

/-- What is gathered of nodes is what the relation says. -/
theorem collect_eq_ok_iff {base index : Nat} {program : Program} {ts : List Token}
    {outputs : List Output} :
    collect base index program = .ok (ts, outputs) ↔ Collected base index program ts outputs := by
  constructor
  · intro h
    induction program generalizing base index ts outputs with
    | nil =>
      obtain ⟨rfl, rfl⟩ : [] = ts ∧ [] = outputs := by simpa [collect] using h
      exact .nil
    | cons node rest ih =>
      cases node with
      | code text =>
        obtain ⟨front, hfront, h⟩ := Except.bind_eq_ok_iff.1 h
        obtain ⟨⟨more, os⟩, hmore, h⟩ := Except.bind_eq_ok_iff.1 h
        obtain ⟨rfl, rfl⟩ : front ++ more = ts ∧ os = outputs := Prod.mk.inj (Except.ok.inj h)
        exact .code hfront (ih hmore)
      | literal text =>
        obtain ⟨⟨more, os⟩, hmore, h⟩ := Except.bind_eq_ok_iff.1 h
        obtain ⟨rfl, rfl⟩ := Prod.mk.inj (Except.ok.inj h)
        exact .literal (ih hmore)
      | value expr escape trim =>
        obtain ⟨tree, htree, h⟩ := Except.bind_eq_ok_iff.1 h
        obtain ⟨⟨more, os⟩, hmore, h⟩ := Except.bind_eq_ok_iff.1 h
        obtain ⟨rfl, rfl⟩ := Prod.mk.inj (Except.ok.inj h)
        exact .value htree (ih hmore)
  · intro h
    induction h with
    | nil => rfl
    | code hts hmore ih =>
      rw [collect, hts, Except.ok_bind, Node.source, ih]
      rfl
    | literal hmore ih =>
      rw [collect, Node.source, ih]
      rfl
    | value htree hmore ih =>
      rw [collect, htree, Except.ok_bind, Node.source, ih]
      rfl

namespace Collected

variable {base index : Nat} {P Q : Program} {ts ts' : List Token} {outputs outputs' : List Output}

/-- Nodes one after the other give their tokens and outputs one after the other. -/
theorem append (hP : Collected base index P ts outputs)
    (hQ : Collected (base + extent P) (index + outputs.length) Q ts' outputs') :
    Collected base index (P ++ Q) (ts ++ ts') (outputs ++ outputs') := by
  induction hP with
  | nil => exact hQ
  | code hts hmore ih =>
    rw [extent, ← Nat.add_assoc] at hQ
    rw [List.append_assoc]
    exact .code hts (ih hQ)
  | literal hmore ih =>
    rw [extent, ← Nat.add_assoc, List.length_cons, Nat.add_comm _ 1, ← Nat.add_assoc] at hQ
    exact .literal (ih hQ)
  | value htree hmore ih =>
    rw [extent, ← Nat.add_assoc, List.length_cons, Nat.add_comm _ 1, ← Nat.add_assoc] at hQ
    exact .value htree (ih hQ)

/-- Nodes elsewhere give the same tokens elsewhere, with other numbers. -/
theorem move (h : Collected base index P ts outputs) (n m : Nat) :
    Collected (m + base) (n + index) P (ts.map (Token.move n m)) outputs := by
  induction h with
  | nil => exact .nil
  | code hts hmore ih =>
    rw [List.map_append]
    rw [← Nat.add_assoc] at ih
    exact .code (tokens_move hts n m) ih
  | literal hmore ih =>
    rw [← Nat.add_assoc, ← Nat.add_assoc] at ih
    exact .literal ih
  | value htree hmore ih =>
    rw [← Nat.add_assoc, ← Nat.add_assoc] at ih
    exact .value htree ih

/-- The tokens of nodes stand for their outputs, in the same order. -/
theorem numbers (h : Collected base index P ts outputs) :
    numbers ts = List.range' index outputs.length := by
  induction h with
  | nil => rfl
  | code hts hmore ih => rw [numbers_append, numbers_tokens hts, List.nil_append, ih]
  | @literal base index text rest more outputs hmore ih =>
    exact congrArg (index :: ·) ih
  | @value base index expr escape trim tree rest more outputs htree hmore ih =>
    exact congrArg (index :: ·) ih

end Collected

/-! ## accepted nodes -/

/-- A program has a script just if its tokens are statements of the grammar. -/
theorem ofProgram_eq_ok_iff {program : Program} {script : Tree} :
    ofProgram program = .ok script ↔ ∃ ts, Collected 0 0 program ts script.outputs ∧
      Builds .statements ts script.body [] := by
  constructor
  · intro h
    obtain ⟨⟨ts, outputs⟩, hcollect, h⟩ := Except.bind_eq_ok_iff.1 h
    dsimp only at h
    split at h
    · next body hbody =>
      obtain rfl : ⟨body, outputs⟩ = script := Except.ok.inj h
      exact ⟨ts, collect_eq_ok_iff.1 hcollect, statements_eq_ok_iff.1 hbody⟩
    · cases h
  · rintro ⟨ts, hcollected, hbuilds⟩
    rw [ofProgram, collect_eq_ok_iff.2 hcollected, Except.ok_bind]
    dsimp only
    rw [statements_eq_ok_iff.2 hbuilds]
    rfl

/-- Accepted nodes are read in the same way anywhere, in front of what ends
statements. -/
theorem exists_of_ofProgram {program : Program} {script : Tree}
    (h : ofProgram program = .ok script) (base index : Nat) :
    ∃ ts, Collected base index program ts script.outputs ∧ ∀ more, Stops more →
      Builds .statements (ts ++ more) (shiftAll index script.body) more := by
  obtain ⟨ts, hcollected, hbuilds⟩ := ofProgram_eq_ok_iff.1 h
  exact ⟨ts.map (Token.move index base), hcollected.move index base, fun more hstops =>
    hbuilds.append (fun _ => hstops) index base⟩

/-- The statements of a script name all its outputs, in order. -/
theorem emitsAll_of_ofProgram {program : Program} {script : Tree}
    (h : ofProgram program = .ok script) :
    emitsAll script.body = List.range script.outputs.length := by
  obtain ⟨ts, hcollected, hbuilds⟩ := ofProgram_eq_ok_iff.1 h
  have hnumbers := hbuilds.numbers
  rw [hcollected.numbers, ← List.range_eq_range'] at hnumbers
  rw [hnumbers]
  exact (List.append_nil _).symm

/-- The statements of a script do the same among those of another one. -/
theorem execAll_of_ofProgram {program : Program} {script : Tree}
    (h : ofProgram program = .ok script) (front back : List Output) (ctx : Context) :
    execAll (front ++ script.outputs ++ back) ctx (shiftAll front.length script.body) =
      execAll script.outputs ctx script.body := by
  refine execAll_shift ctx script.body fun i hi => ?_
  rw [emitsAll_of_ofProgram h] at hi
  have hlt := List.mem_range.1 hi
  rw [List.append_assoc, List.getElem?_append_right (by omega), Nat.add_sub_cancel_left,
    List.getElem?_append_left hlt]

/-! ## texts and values -/

/-- The output that a text or a value is. -/
inductive OutputOf : Node → Output → Prop where
  | text (s : String) : OutputOf (.literal s) (.text s)
  | value {expr : String} {tree : Expr} (escape : Bool) (trim : Trim) :
    parseValue expr = .ok tree → OutputOf (.value expr escape trim) (.value tree escape trim)

/-- A node that is no code gives its output and nothing else. -/
theorem OutputOf.collected {node : Node} {o : Output} (h : OutputOf node o) (base index : Nat) :
    Collected base index [node] [⟨.emit index, base⟩] [o] := by
  cases h with
  | text s => exact .literal .nil
  | value escape trim htree => exact .value htree .nil

/-- A script of such a node has its output only. -/
theorem exists_outputOf {node : Node} {script : Tree} (hnode : ∀ text, node ≠ .code text)
    (h : ofProgram [node] = .ok script) : ∃ o, OutputOf node o ∧ script.outputs = [o] := by
  obtain ⟨ts, hcollected, -⟩ := ofProgram_eq_ok_iff.1 h
  generalize script.outputs = outputs at hcollected
  cases hcollected with
  | code => exact absurd rfl (hnode _)
  | @literal base index text rest more outputs hmore =>
    cases hmore
    exact ⟨_, .text text, rfl⟩
  | @value base index expr escape trim tree rest more outputs htree hmore =>
    cases hmore
    exact ⟨_, .value escape trim htree, rfl⟩

section
variable {P Q : Program} {node : Node} {front back : Tree} {o : Output}

/-- The script of nodes with a text or a value between them. -/
theorem ofProgram_between (hP : ofProgram P = .ok front) (hQ : ofProgram Q = .ok back)
    (ho : OutputOf node o) :
    ofProgram (P ++ [node] ++ Q) = .ok
      ⟨front.body ++ .emit front.outputs.length ::
          shiftAll (front.outputs.length + 1) back.body,
        front.outputs ++ [o] ++ back.outputs⟩ := by
  obtain ⟨ts, hcollected, hbuilds⟩ := exists_of_ofProgram hP 0 0
  obtain ⟨ts', hcollected', hbuilds'⟩ := exists_of_ofProgram hQ
    (0 + extent (P ++ [node])) (0 + (front.outputs ++ [o]).length)
  refine ofProgram_eq_ok_iff.2 ⟨_, (hcollected.append (ho.collected _ _)).append hcollected', ?_⟩
  have hfront := hbuilds (⟨.emit (0 + front.outputs.length), 0 + extent P⟩ :: ts')
    (next_cons.2 rfl)
  have hback := hbuilds' [] (next_nil _)
  rw [shiftAll_zero] at hfront
  rw [List.append_nil, Nat.zero_add, List.length_append] at hback
  rw [List.append_assoc, List.singleton_append]
  rw [Nat.zero_add] at hfront ⊢
  exact hfront.trans (.next .emit hback)

/-- Running nodes with a text or a value between them. -/
theorem execAll_between (hP : ofProgram P = .ok front) (hQ : ofProgram Q = .ok back)
    (ctx : Context) (frame : Frame) :
    execAll (front.outputs ++ [o] ++ back.outputs) ctx
        (front.body ++ .emit front.outputs.length ::
          shiftAll (front.outputs.length + 1) back.body) frame = (do
      let after ← execAll front.outputs ctx front.body frame
      let text ← outputText ctx after.scopes o
      execAll back.outputs ctx back.body { after with text := after.text ++ text }) := by
  have hfront := execAll_of_ofProgram hP [] ([o] ++ back.outputs) ctx
  have hback := execAll_of_ofProgram hQ (front.outputs ++ [o]) [] ctx
  have hget : (front.outputs ++ [o] ++ back.outputs)[front.outputs.length]? = some o := by
    rw [List.append_assoc, List.getElem?_append_right (Nat.le_refl _), Nat.sub_self]
    rfl
  rw [List.nil_append, List.length_nil, shiftAll_zero, ← List.append_assoc] at hfront
  rw [List.append_nil, List.length_append, List.length_singleton] at hback
  rw [execAll_append, hfront]
  congr 1
  funext after
  rw [execAll, exec, hget, hback]
  exact Rendering.bind_bind _ _ _

end

/-! ## the nodes of the outputs -/

section
variable {base index : Nat} {program : Program} {ts : List Token} {os : List Output}

/-- The outputs are those of the texts and values, one by one. -/
theorem Collected.forall₂_filter (h : Collected base index program ts os) :
    List.Forall₂ OutputOf (program.filter Node.writes) os := by
  induction h with
  | nil => exact .nil
  | code hts hmore ih => exact ih
  | literal hmore ih => exact .cons (.text _) ih
  | value htree hmore ih => exact .cons (.value _ _ htree) ih

/-- Nodes without code give one output each. -/
theorem Collected.forall₂ (h : Collected base index program ts os)
    (hcode : ∀ node ∈ program, ∀ text, node ≠ .code text) : List.Forall₂ OutputOf program os := by
  have hwrites : program.filter Node.writes = program := by
    refine List.filter_eq_self.2 fun node hnode => ?_
    cases node with
    | code text => exact absurd rfl (hcode (.code text) hnode text)
    | _ => rfl
  have houtputs := h.forall₂_filter
  rw [hwrites] at houtputs
  exact houtputs

/-- Without code, the statements only write the outputs. -/
theorem Collected.builds (h : Collected base index program ts os)
    (hcode : ∀ node ∈ program, ∀ text, node ≠ .code text) :
    Builds .statements ts ((List.range' index os.length).map .emit) [] := by
  induction h with
  | nil => exact .done
  | @code base index text rest ts more os hts hmore ih =>
    exact absurd rfl (hcode (.code text) (by simp) text)
  | literal hmore ih => exact .next .emit (ih fun node hnode => hcode node (by simp [hnode]))
  | value htree hmore ih =>
    exact .next .emit (ih fun node hnode => hcode node (by simp [hnode]))

end

/-- Writing outputs one after the other. -/
theorem execAll_emits (front outputs : List Output) (ctx : Context) (frame : Frame) :
    execAll (front ++ outputs) ctx ((List.range' front.length outputs.length).map .emit) frame =
      (do
        let texts ← outputs.mapM (outputText ctx frame.scopes)
        return { frame with text := frame.text ++ String.join texts }) := by
  induction outputs generalizing front frame with
  | nil =>
    obtain ⟨scopes, text⟩ := frame
    rw [List.length_nil, List.range'_zero, List.map_nil, execAll, List.mapM_nil, pure_bind,
      String.join_nil, String.append_empty]
  | cons o outputs ih =>
    have hget : (front ++ o :: outputs)[front.length]? = some o := by
      rw [List.getElem?_append_right (Nat.le_refl _), Nat.sub_self]
      rfl
    have hrest := ih (front ++ [o])
    rw [List.append_assoc, List.singleton_append, List.length_append,
      List.length_singleton] at hrest
    rw [List.length_cons, List.range'_succ, List.map_cons, execAll, exec, hget, List.mapM_cons]
    simp only [bind_assoc, pure_bind, hrest, String.join_cons, String.append_assoc]

/-- A text is written as it stands. -/
theorem outputText_of_literal {text : String} {o : Output} (h : OutputOf (.literal text) o)
    (ctx : Context) (scopes : Scopes) : outputText ctx scopes o = return text := by
  cases h
  rfl

/-- The value of an expression is displayed, then escaped if the marker asks for that, and
trimmed in the end. -/
theorem outputText_of_value {expr : String} {escape : Bool} {trim : Trim} {o : Output}
    (h : OutputOf (.value expr escape trim) o) : ∃ tree, parseValue expr = .ok tree ∧
      ∀ ctx scopes, outputText ctx scopes o = (do
        let v ← eval ctx scopes tree
        let shown := if escape then Text.escapeHtml (display v) else display v
        return match trim with
          | .none => shown
          | .lineEndings => Text.trimLineEndings shown
          | .blanks => Text.trimBlanks shown) := by
  cases h with
  | @value expr tree escape trim htree =>
    refine ⟨tree, htree, fun ctx scopes => ?_⟩
    cases trim <;> rfl

section
variable {program : Program} {script : Tree} (h : ofProgram program = .ok script)
  (hcode : ∀ node ∈ program, ∀ text, node ≠ .code text)
include h hcode

/-- A template of texts and values has an output for each of them, in source order, and
running it puts together what these write. -/
theorem run_of_no_code : List.Forall₂ OutputOf program script.outputs ∧
    ∀ dataName data, script.run dataName data = (do
      let texts ← script.outputs.mapM (outputText ⟨dataName, data⟩ [[]])
      return String.join texts) := by
  obtain ⟨ts, hcollected, hbuilds⟩ := ofProgram_eq_ok_iff.1 h
  have hbody : script.body = (List.range' 0 script.outputs.length).map .emit := by
    have hread := statements_eq_ok_iff.2 (hcollected.builds hcode)
    rw [statements_eq_ok_iff.2 hbuilds] at hread
    exact Except.ok.inj hread
  refine ⟨hcollected.forall₂ hcode, fun dataName data => ?_⟩
  have hrun := execAll_emits [] script.outputs ⟨dataName, data⟩ ⟨[[]], ""⟩
  rw [List.nil_append, List.length_nil, ← hbody] at hrun
  rw [Tree.run, hrun]
  simp only [bind_assoc, pure_bind, String.empty_append]

/-- Such a template fails where the first of its values does: what stands in front of it has
been evaluated, and nothing that comes after it. -/
theorem run_eq_fail_iff_of_no_code {σ : Type} {dataName : String} {data : Json}
    {reply : String → Json → σ → Rendering.Outcome String × σ} {e : Error} {s t : σ} :
    (script.run dataName data).answer reply s = (.fail e, t) ↔
      ∃ front o back texts s', script.outputs = front ++ o :: back ∧
        (front.mapM (outputText ⟨dataName, data⟩ [[]])).answer reply s = (.done texts, s') ∧
        (outputText ⟨dataName, data⟩ [[]] o).answer reply s' = (.fail e, t) := by
  rw [(run_of_no_code h hcode).2, Rendering.answer_bind_pure_eq_fail_iff,
    Rendering.answer_mapM_eq_fail_iff]

end

/-- **Texts and values separate statements.** Of accepted nodes with a text or a
value between them, the script is that of the nodes in front, then one that writes
the output between them, then that of the nodes after it; and so is what running
it does. In particular a template without code writes its texts and the texts of
its values in source order, or fails where the first of its values does. -/
theorem outputs_separate :
    (∀ {P Q : Program} {node : Node} {front back single : Tree},
      ofProgram P = .ok front → ofProgram Q = .ok back → (∀ text, node ≠ .code text) →
      ofProgram [node] = .ok single →
      ∃ o, OutputOf node o ∧ single.outputs = [o] ∧
        ofProgram (P ++ [node] ++ Q) = .ok
          ⟨front.body ++ .emit front.outputs.length ::
              shiftAll (front.outputs.length + 1) back.body,
            front.outputs ++ [o] ++ back.outputs⟩ ∧
        ∀ ctx frame, execAll (front.outputs ++ [o] ++ back.outputs) ctx
            (front.body ++ .emit front.outputs.length ::
              shiftAll (front.outputs.length + 1) back.body) frame = (do
          let after ← execAll front.outputs ctx front.body frame
          let text ← outputText ctx after.scopes o
          execAll back.outputs ctx back.body { after with text := after.text ++ text })) ∧
    ∀ {program : Program} {script : Tree}, ofProgram program = .ok script →
      (∀ node ∈ program, ∀ text, node ≠ .code text) →
      List.Forall₂ OutputOf program script.outputs ∧
        ∀ dataName data, script.run dataName data = (do
          let texts ← script.outputs.mapM (outputText ⟨dataName, data⟩ [[]])
          return String.join texts) := by
  constructor
  · intro P Q node front back single hP hQ hnode hsingle
    obtain ⟨o, ho, houtputs⟩ := exists_outputOf hnode hsingle
    exact ⟨o, ho, houtputs, ofProgram_between hP hQ ho, execAll_between hP hQ⟩
  · intro program script h hcode
    exact run_of_no_code h hcode

/-- A value between a conditional text and a declaration without semicolons, and a
template of a text and a value. -/
theorem outputs_separate_page : ∃ front back single o script,
    ofProgram [.code "if (a) \x7b", .literal "t", .code "\x7d"] = .ok front ∧
    ofProgram [.code "let b = 1", .value "b" false .none] = .ok back ∧
    ofProgram [.value "a + 1" true .blanks] = .ok single ∧ single.outputs = [o] ∧
    ofProgram [.code "if (a) \x7b", .literal "t", .code "\x7d", .value "a + 1" true .blanks,
      .code "let b = 1", .value "b" false .none] = .ok
        ⟨front.body ++ .emit front.outputs.length :: shiftAll (front.outputs.length + 1) back.body,
          front.outputs ++ [o] ++ back.outputs⟩ ∧
    ofProgram [.literal "t", .value "a" true .none] = .ok script ∧
    script.run "a" (.int 1) = (do
      let texts ← script.outputs.mapM (outputText ⟨"a", .int 1⟩ [[]])
      return String.join texts) := by
  obtain ⟨front, hfront⟩ := Except.exists_of_isOk
    (show (ofProgram [.code "if (a) \x7b", .literal "t", .code "\x7d"]).isOk = true by
      decide +kernel)
  obtain ⟨back, hback⟩ := Except.exists_of_isOk
    (show (ofProgram [.code "let b = 1", .value "b" false .none]).isOk = true by decide +kernel)
  obtain ⟨single, hsingle⟩ := Except.exists_of_isOk
    (show (ofProgram [.value "a + 1" true .blanks]).isOk = true by decide +kernel)
  obtain ⟨script, hscript⟩ := Except.exists_of_isOk
    (show (ofProgram [.literal "t", .value "a" true .none]).isOk = true by decide +kernel)
  obtain ⟨o, -, houtputs, hall, -⟩ :=
    outputs_separate.1 hfront hback (fun text => Node.noConfusion) hsingle
  obtain ⟨-, hrun⟩ := outputs_separate.2 hscript (by simp)
  exact ⟨front, back, single, o, script, hfront, hback, hsingle, houtputs, hall, hscript,
    hrun "a" (.int 1)⟩

end Script

end Stencil
