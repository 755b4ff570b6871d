import Stencil.Proofs.Rendering
import Stencil.Proofs.Script.Joining
import Stencil.Proofs.Script.QuotedRegions
import Stencil.Proofs.Script.Scopes
import Stencil.Proofs.Script.Separation

/-!
# Stencil.Proofs.Script.Control

Control structures whose brackets stand in different markers. Accepted nodes
between the brackets become a block of their statements, wherever they stand
(`exists_of_ofProgram`), so what is left is to read the code of the brackets
(`exists_tokens_condition`, `exists_tokens_loop`) and to run the block in a scope of its
own.

What comes out is accepted nodes again, so this holds at every depth.
-/

namespace Stencil.Script

open Text
open Parse

/-! ## code of the brackets -/

theorem isWord_if : IsWord "if" := ⟨'i', ['f'], rfl, rfl, rfl⟩

theorem isWord_else : IsWord "else" := ⟨'e', ['l', 's', 'e'], rfl, rfl, rfl⟩

theorem isWord_for : IsWord "for" := ⟨'f', ['o', 'r'], rfl, rfl, rfl⟩

theorem isWord_const : IsWord "const" := ⟨'c', ['o', 'n', 's', 't'], rfl, rfl, rfl⟩

theorem isWord_of : IsWord "of" := ⟨'o', ['f'], rfl, rfl, rfl⟩

/-- None of the lexemes of the code is a comment. -/
def NoComments (code : String) : Prop := ∀ ls, Lexed code.toList ls → ∀ l ∈ ls, ¬ IsComment l.text

/-- Code without the sign of a comment outside of strings has no comment. -/
theorem noComments_of_uncommented {code : String} (h : Uncommented (utf8 code)) :
    NoComments code := fun _ hlexed => Uncommented.not_mem hlexed h

/-- What is in front of an expression, the expression, and what follows it. -/
theorem exists_of_parseValue {e : String} {tree : Expr} (h : parseValue e = .ok tree)
    (hcomments : NoComments e) :
    ∃ ls, (∀ {more ls'}, Lexed (')' :: more) ls' → Lexed (e.toList ++ ')' :: more) (ls ++ ls')) ∧
      ∀ base o r, Reads .expression (placed base ls ++ ⟨.punct .rparen, o⟩ :: r) tree
        (⟨.punct .rparen, o⟩ :: r) := by
  obtain ⟨ls, hlexed, hreads⟩ := parseValue_eq_ok_iff.1 h
  exact ⟨ls, fun h' => hlexed.append divides_rparen (hcomments ls hlexed) h',
    fun base o r => reads_placed hlexed hreads (next_cons.2 rfl) base⟩

section
variable {e : String} {tree : Expr} (base : Nat)

/-- The code in front of the first branch of a conditional statement. -/
theorem exists_tokens_condition (h : parseValue e = .ok tree) (hcomments : NoComments e) :
    ∃ ts, tokens base ("if (" ++ e ++ ") \x7b") = .ok ts ∧
      ∀ {r₁ r₂ r : List Token} {yes no : List Stmt} {o₁ o₂ o₃ o₄ : Nat},
        Builds .statements r₁ yes
          (⟨.punct .rbrace, o₁⟩ :: ⟨.ident "else", o₂⟩ :: ⟨.punct .lbrace, o₃⟩ :: r₂) →
        Builds .statements r₂ no (⟨.punct .rbrace, o₄⟩ :: r) →
        Builds .statement (ts ++ r₁) (.branch tree (.block yes) (some (.block no))) r := by
  obtain ⟨ls, hlexed, hreads⟩ := exists_of_parseValue h hcomments
  have hcode : ("if (" ++ e ++ ") \x7b").toList =
      "if".toList ++ ' ' :: '(' :: (e.toList ++ [')', ' ', '\x7b']) := by simp
  have hlexed' : Lexed ("if (" ++ e ++ ") \x7b").toList (.word "if" :: .space :: .mark .lparen ::
      (ls ++ [Lexeme.mark .rparen, Lexeme.space, Lexeme.mark .lbrace])) := by
    rw [hcode]
    exact lexed_word isWord_if rfl (lexed_space (lexed_mark .lparen (by decide) (hlexed
      (lexed_mark .rparen (by decide) (lexed_space (lexed_mark .lbrace (by decide) .nil))))))
  refine ⟨_, tokens_of_lexed hlexed' base, fun hyes hno => ?_⟩
  simp only [placed_append, placed_word, placed_space, placed_mark, placed_nil, List.append_assoc,
    List.cons_append, List.nil_append]
  exact .branchElse rfl (hreads _ _ _) (.block hyes) rfl (.block hno)

/-- The code in front of the body of a loop. -/
theorem exists_tokens_loop {v : String} (hv : IsWord v) (hname : Keyword.ofName? v = none)
    (h : parseValue e = .ok tree) (hcomments : NoComments e) :
    ∃ ts, tokens base ("for (const " ++ v ++ " of " ++ e ++ ") \x7b") = .ok ts ∧
      ∀ {r₁ r : List Token} {body : List Stmt} {o : Nat},
        Builds .statements r₁ body (⟨.punct .rbrace, o⟩ :: r) →
        Builds .statement (ts ++ r₁) (.forOf v tree (.block body)) r := by
  obtain ⟨ls, hlexed, hreads⟩ := exists_of_parseValue h hcomments
  have hcode : ("for (const " ++ v ++ " of " ++ e ++ ") \x7b").toList =
      "for".toList ++ ' ' :: '(' :: ("const".toList ++ ' ' :: (v.toList ++ ' ' ::
        ("of".toList ++ ' ' :: (e.toList ++ [')', ' ', '\x7b'])))) := by simp
  have hlexed' : Lexed ("for (const " ++ v ++ " of " ++ e ++ ") \x7b").toList
      (.word "for" :: .space :: .mark .lparen :: .word "const" :: .space :: .word v :: .space ::
        .word "of" :: .space ::
          (ls ++ [Lexeme.mark .rparen, Lexeme.space, Lexeme.mark .lbrace])) := by
    rw [hcode]
    exact lexed_word isWord_for rfl (lexed_space (lexed_mark .lparen (by decide)
      (lexed_word isWord_const rfl (lexed_space (lexed_word hv rfl (lexed_space
        (lexed_word isWord_of rfl (lexed_space (hlexed (lexed_mark .rparen (by decide)
          (lexed_space (lexed_mark .lbrace (by decide) .nil))))))))))))
  have hconst : ∀ o, Declarator [⟨.ident "const", o⟩] := fun o => .inr ⟨"const", o, rfl, rfl⟩
  refine ⟨_, tokens_of_lexed hlexed' base, fun {r₁ r body o} hbody => ?_⟩
  simp only [placed_append, placed_word, placed_space, placed_mark, placed_nil, List.append_assoc,
    List.cons_append, List.nil_append]
  have hbuilds : ∀ {o o₁ o₂ o₃ o₄ o₅ o₆ i : Nat}, Builds .statement (⟨.ident "for", o⟩ ::
      ⟨.punct .lparen, o₁⟩ :: ([⟨.ident "const", o₂⟩] ++ ⟨.ident v, o₃⟩ ::
        ⟨.ident LoopKind.of.word, o₄⟩ :: (placed i ls ++ ⟨.punct .rparen, o₅⟩ ::
          ⟨.punct .lbrace, o₆⟩ :: r₁))) (LoopKind.of.loop v tree (.block body)) r :=
    .loop rfl (hconst _) hname (hreads _ _ _) (.block hbody)
  exact hbuilds

/-- The code between two branches is three tokens. -/
theorem exists_tokens_else : ∃ o₁ o₂ o₃, tokens base "\x7d else \x7b" =
    .ok [⟨.punct .rbrace, o₁⟩, ⟨.ident "else", o₂⟩, ⟨.punct .lbrace, o₃⟩] := by
  have hlexed : Lexed "\x7d else \x7b".toList
      [.mark .rbrace, .space, .word "else", .space, .mark .lbrace] :=
    lexed_mark .rbrace (by decide) (lexed_space (lexed_word isWord_else rfl (lexed_space
      (lexed_mark .lbrace (by decide) .nil))))
  exact ⟨_, _, _, tokens_of_lexed hlexed base⟩

/-- The code behind a block is its brace. -/
theorem exists_tokens_rbrace : ∃ o, tokens base "\x7d" = .ok [⟨.punct .rbrace, o⟩] := by
  have hlexed : Lexed "\x7d".toList [.mark .rbrace] :=
    lexed_mark .rbrace (by decide) .nil
  exact ⟨_, tokens_of_lexed hlexed base⟩

end

/-! ## scripts -/

/-- Nodes as the two branches of a conditional statement. -/
def conditional (e : String) (P Q : Program) : Program :=
  .code ("if (" ++ e ++ ") \x7b") :: P ++ .code "\x7d else \x7b" :: Q ++ [.code "\x7d"]

/-- Nodes as the body of a loop over items. -/
def loop (v e : String) (P : Program) : Program :=
  .code ("for (const " ++ v ++ " of " ++ e ++ ") \x7b") :: P ++ [.code "\x7d"]

section
variable {e : String} {tree : Expr} {P Q : Program} {front back script : Tree}

/-- A conditional is compiled to one branch with the scripts of its two parts in blocks. -/
theorem ofProgram_conditional (he : parseValue e = .ok tree) (hcomments : NoComments e)
    (hP : ofProgram P = .ok front) (hQ : ofProgram Q = .ok back) :
    ofProgram (conditional e P Q) = .ok
      ⟨[.branch tree (.block front.body)
          (some (.block (shiftAll front.outputs.length back.body)))],
        front.outputs ++ back.outputs⟩ := by
  let base := 0 + octets ("if (" ++ e ++ ") \x7b").toList
  let base' := base + extent P + octets "\x7d else \x7b".toList
  obtain ⟨ts, hts, hbranch⟩ := exists_tokens_condition 0 he hcomments
  obtain ⟨tsP, hcollectedP, hyes⟩ := exists_of_ofProgram hP base 0
  obtain ⟨o₁, o₂, o₃, helse⟩ := exists_tokens_else (base + extent P)
  obtain ⟨tsQ, hcollectedQ, hno⟩ := exists_of_ofProgram hQ base' (0 + front.outputs.length)
  obtain ⟨o₄, hclose⟩ := exists_tokens_rbrace (base' + extent Q)
  have hcollected := Collected.code hts
    (hcollectedP.append (.code helse (hcollectedQ.append (.code hclose .nil))))
  have hbody := hyes _ (next_cons.2 rfl : Stops (⟨.punct .rbrace, o₁⟩ :: ⟨.ident "else", o₂⟩ ::
    ⟨.punct .lbrace, o₃⟩ :: (tsQ ++ [⟨.punct .rbrace, o₄⟩])))
  have hbody' := hno _ (next_cons.2 rfl : Stops [⟨.punct .rbrace, o₄⟩])
  rw [shiftAll_zero] at hbody
  rw [Nat.zero_add] at hbody'
  rw [List.append_nil, List.append_nil] at hcollected
  rw [conditional, List.append_assoc, List.cons_append]
  exact ofProgram_eq_ok_iff.2 ⟨_, hcollected, .next (hbranch hbody hbody') .done⟩

/-- A loop is compiled to one loop with the script of its part in a block. -/
theorem ofProgram_loop {v : String} (hv : IsWord v) (hname : Keyword.ofName? v = none)
    (he : parseValue e = .ok tree) (hcomments : NoComments e) (hP : ofProgram P = .ok script) :
    ofProgram (loop v e P) = .ok ⟨[.forOf v tree (.block script.body)], script.outputs⟩ := by
  let base := 0 + octets ("for (const " ++ v ++ " of " ++ e ++ ") \x7b").toList
  obtain ⟨ts, hts, hloop⟩ := exists_tokens_loop 0 hv hname he hcomments
  obtain ⟨tsP, hcollectedP, hbuilds⟩ := exists_of_ofProgram hP base 0
  obtain ⟨o, hclose⟩ := exists_tokens_rbrace (base + extent P)
  have hcollected := Collected.code hts (hcollectedP.append (.code hclose .nil))
  have hbody := hbuilds _ (next_cons.2 rfl : Stops [⟨.punct .rbrace, o⟩])
  rw [shiftAll_zero] at hbody
  rw [List.append_nil, List.append_nil] at hcollected
  exact ofProgram_eq_ok_iff.2 ⟨_, hcollected, .next (hloop hbody) .done⟩

end

/-! ## running -/

/-- A branch made of nodes runs them in a scope of their own. -/
theorem inScope_block {P : Program} {script : Tree} (hP : ofProgram P = .ok script)
    (front back : List Output) (ctx : Context) :
    inScope [] (exec (front ++ script.outputs ++ back) ctx
        (.block (shiftAll front.length script.body))) =
      inScope [] (execAll script.outputs ctx script.body) := by
  rw [exec_block, execAll_of_ofProgram hP]
  exact inScope_inScope (execAll_local ctx "" (fun _ _ => lacks_nil _) _ (lacks_nil _))

/-- A script of one statement does the same as that statement among those of another
script. -/
theorem exec_of_ofProgram {P : Program} {s : Stmt} {outputs : List Output}
    (h : ofProgram P = .ok ⟨[s], outputs⟩) (front back : List Output) (ctx : Context) :
    exec (front ++ outputs ++ back) ctx (s.shift front.length) = exec outputs ctx s := by
  have hsingle : ∀ os s, execAll os ctx [s] = exec os ctx s := fun os s => by
    rw [execAll_cons, execAll_nil]
    exact funext fun frame => Rendering.bind_done _
  have hall := execAll_of_ofProgram h front back ctx
  rw [shiftAll, shiftAll, hsingle, hsingle] at hall
  exact hall

/-- What runs in a scope of its own begins with the variables of that scope, above all others,
and with the text so far. Afterwards the scope is gone; the text stays, and so does what
happened to the variables of the other scopes. -/
theorem answer_inScope_eq_done_iff {σ : Type}
    {reply : String → Json → σ → Rendering.Outcome String × σ} {scope : Scope}
    {run : Frame → Rendering Frame} {frame after : Frame} {s t : σ} :
    (inScope scope run frame).answer reply s = (.done after, t) ↔
      ∃ inner, (run ⟨scope :: frame.scopes, frame.text⟩).answer reply s = (.done inner, t) ∧
        after = ⟨inner.scopes.tail, inner.text⟩ := by
  constructor
  · intro h
    obtain ⟨inner, s', hrun, hdone⟩ := Rendering.exists_of_answer_bind h
    obtain ⟨hafter, rfl⟩ := Prod.mk.inj hdone
    exact ⟨inner, hrun, (Rendering.Outcome.done.inj hafter).symm⟩
  · rintro ⟨inner, hrun, rfl⟩
    exact Rendering.answer_bind hrun _

/-- If it fails, so does the whole. -/
theorem answer_inScope_eq_fail_iff {σ : Type}
    {reply : String → Json → σ → Rendering.Outcome String × σ} {scope : Scope}
    {run : Frame → Rendering Frame} {frame : Frame} {e : Error} {s t : σ} :
    (inScope scope run frame).answer reply s = (.fail e, t) ↔
      (run ⟨scope :: frame.scopes, frame.text⟩).answer reply s = (.fail e, t) :=
  Rendering.answer_bind_pure_eq_fail_iff

/-- A loop runs over the items of an array, or over the characters of a string, each as a
string of its own. No other value has items. -/
theorem loopItems_eq_ok_iff {v : Json} {items : List Json} : loopItems v = .ok items ↔
    v = .array items ∨ ∃ s, v = .string s ∧
      items = s.toList.map fun c => .string (String.ofList [c]) := by
  cases v <;> simp [loopItems, characters, eq_comm]

/-- A loop over a value without items fails. -/
theorem loopItems_eq_error_iff {v : Json} {cause : RuntimeCause} : loopItems v = .error cause ↔
    cause = .notIterable (kindName v) ∧ (∀ items, v ≠ .array items) ∧ ∀ s, v ≠ .string s := by
  cases v <;> simp [loopItems, eq_comm]

/-- The turns of a loop follow each other, each in a scope of its own with the variable. -/
theorem turns_eq_foldlM (name : String) (run : Frame → Rendering Frame) (values : List Json)
    (frame : Frame) : turns name run values frame =
      values.foldlM (fun frame value => inScope [(name, value)] run frame) frame := by
  induction values generalizing frame with
  | nil => rfl
  | cons value rest ih =>
    rw [turns, List.foldlM_cons]
    congr 1
    exact funext ih

/-- **Control structures across markers.** Of an expression without comments and of
accepted nodes, the code of a conditional statement around the nodes makes one
statement with two blocks of their statements. It runs the nodes of one of its
branches in a scope of their own, and nothing of the other one. The code of a loop
around nodes makes one loop over a block of their statements. It runs them once for
each of the items, each time with a new variable, from where the turn before ended.

Both are accepted nodes again, so they may stand in each other at any depth, and what
they do is the same wherever they stand. -/
theorem control_structures :
    (∀ {e : String} {tree : Expr} {P Q : Program} {front back : Tree},
      parseValue e = .ok tree → NoComments e →
      ofProgram P = .ok front → ofProgram Q = .ok back →
      let s := Stmt.branch tree (.block front.body)
        (some (.block (shiftAll front.outputs.length back.body)))
      ofProgram (conditional e P Q) = .ok ⟨[s], front.outputs ++ back.outputs⟩ ∧
        ∀ before after ctx frame, exec (before ++ (front.outputs ++ back.outputs) ++ after) ctx
            (s.shift before.length) frame = (do
          let condition ← eval ctx frame.scopes tree
          if truthy condition then inScope [] (execAll front.outputs ctx front.body) frame
          else inScope [] (execAll back.outputs ctx back.body) frame)) ∧
    ∀ {v e : String} {tree : Expr} {P : Program} {script : Tree},
      IsWord v → Keyword.ofName? v = none → parseValue e = .ok tree → NoComments e →
      ofProgram P = .ok script →
      let s := Stmt.forOf v tree (.block script.body)
      ofProgram (loop v e P) = .ok ⟨[s], script.outputs⟩ ∧
        ∀ before after ctx frame, exec (before ++ script.outputs ++ after) ctx
            (s.shift before.length) frame = (do
          let value ← eval ctx frame.scopes tree
          let items ← ofResult (loopItems value)
          items.foldlM (fun frame item =>
            inScope [(v, item)] (inScope [] (execAll script.outputs ctx script.body)) frame)
              frame) := by
  constructor
  · intro e tree P Q front back he hcomments hP hQ
    have hprogram := ofProgram_conditional he hcomments hP hQ
    refine ⟨hprogram, fun before after ctx frame => ?_⟩
    have hyes := inScope_block hP [] back.outputs ctx
    have hno := inScope_block hQ front.outputs [] ctx
    rw [List.length_nil, shiftAll_zero, List.nil_append] at hyes
    rw [List.append_nil] at hno
    rw [exec_of_ofProgram hprogram, exec, hyes, hno]
  · intro v e tree P script hv hname he hcomments hP
    have hprogram := ofProgram_loop hv hname he hcomments hP
    refine ⟨hprogram, fun before after ctx frame => ?_⟩
    rw [exec_of_ofProgram hprogram]
    simp only [exec_forOf, exec_block, turns_eq_foldlM]

/-- A conditional statement in a loop. -/
theorem control_structures_nested : ∃ tree tree' front back inner,
    parseValue "x != '//'" = .ok tree ∧ parseValue "a.b" = .ok tree' ∧
    ofProgram [.code "let y = 1", .literal "t"] = .ok front ∧
    ofProgram [.value "x" true .none] = .ok back ∧
    ofProgram (conditional "x != '//'" [.code "let y = 1", .literal "t"]
      [.value "x" true .none]) = .ok inner ∧
    inner = ⟨[.branch tree (.block front.body)
      (some (.block (shiftAll front.outputs.length back.body)))],
        front.outputs ++ back.outputs⟩ ∧
    ofProgram (loop "x" "a.b" (conditional "x != '//'" [.code "let y = 1", .literal "t"]
      [.value "x" true .none])) = .ok ⟨[.forOf "x" tree' (.block inner.body)], inner.outputs⟩ ∧
    ∀ before after ctx frame, exec (before ++ inner.outputs ++ after) ctx
        ((Stmt.forOf "x" tree' (.block inner.body)).shift before.length) frame = (do
      let value ← eval ctx frame.scopes tree'
      let items ← ofResult (loopItems value)
      items.foldlM (fun frame item =>
        inScope [("x", item)] (inScope [] (execAll inner.outputs ctx inner.body)) frame)
          frame) := by
  obtain ⟨tree, htree⟩ := Except.exists_of_isOk
    (show (parseValue "x != '//'").isOk = true by decide +kernel)
  obtain ⟨tree', htree'⟩ := Except.exists_of_isOk
    (show (parseValue "a.b").isOk = true by decide +kernel)
  obtain ⟨front, hfront⟩ := Except.exists_of_isOk
    (show (ofProgram [.code "let y = 1", .literal "t"]).isOk = true by decide +kernel)
  obtain ⟨back, hback⟩ := Except.exists_of_isOk
    (show (ofProgram [.value "x" true .none]).isOk = true by decide +kernel)
  have hcomments : NoComments "x != '//'" := noComments_of_uncommented (by decide +kernel)
  have hcomments' : NoComments "a.b" := noComments_of_uncommented (by decide +kernel)
  have hx : IsWord "x" := ⟨'x', [], rfl, rfl, rfl⟩
  obtain ⟨hinner, -⟩ := control_structures.1 htree hcomments hfront hback
  obtain ⟨houter, hrun⟩ := control_structures.2 hx rfl htree' hcomments' hinner
  exact ⟨tree, tree', front, back, _, htree, htree', hfront, hback, hinner, rfl, houter, hrun⟩

end Stencil.Script
