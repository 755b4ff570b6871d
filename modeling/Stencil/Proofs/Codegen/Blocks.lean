import Stencil.Proofs.Codegen.Agreement

/-!
# Stencil.Proofs.Codegen.Blocks

What a body does if the code of its template makes blocks: loops and conditions that are
opened in one marker and closed in another. A run has pieces of code that are left, each
with what the variables are there, and takes one step after the other (`step?`):

* a statement that appends a text appends it,
* a block is run as often as its head says, and then what follows it.

`Parts` are the nodes of a template whose code opens and closes blocks and does nothing
else. The tokens of their body are put together from theirs (`plainTokens?_lines`), and to
run these is to append what the parts write (`runs_tokens`). So the body writes the text of
the parts (`writes_body`).

What expressions, conditions and the heads of loops mean is given, as a `Meaning`.
-/

namespace Stencil.Codegen

open Text

/-- What code means where the variables are as an `ε` says. -/
structure Meaning (ε : Type) where
  /-- The text of an expression. -/
  text? : ε → List Token → Option String
  /-- Whether a condition holds. -/
  holds? : ε → List Token → Option Bool
  /-- What the variables are in the turns of a loop. The code is that after `for`. -/
  turns? : ε → List Token → Option (List ε)

/-- What the variables are each time that a block with this head runs. -/
def Meaning.runs? {ε : Type} (m : Meaning ε) (env : ε) : List Token → Option (List ε)
  | .word "if" :: condition =>
    (m.holds? env condition).map fun holds => if holds then [env] else []
  | .word "for" :: turns => m.turns? env turns
  | _ => none

/-! ## operands -/

/-- The expressions whose texts an operand takes. -/
def shownIn (ts : List Token) : List (List Token) :=
  match ts with
  | .mark '&' _ :: rest => shownIn rest
  | .mark '*' _ :: rest => shownIn rest
  | ts =>
    match _h : call? ts with
    | some (path, argument, _) =>
      -- The argument is a reference to the expression in brackets.
      if path = displayPath then [(argument.drop 2).dropLast] else shownIn argument
    | none => []
termination_by ts.length
decreasing_by
  · simp
  · simp
  · have := length_of_call? _h
    omega

/-- The expressions in a call. -/
theorem shownIn_of_call {ts argument rest : List Token} {path : List String}
    (h : call? ts = some (path, argument, rest)) :
    shownIn ts = if path = displayPath then [(argument.drop 2).dropLast] else shownIn argument := by
  rw [shownIn.eq_def]
  split
  · simp [call?, splitPath] at h
  · simp [call?, splitPath] at h
  · split
    · next hcall =>
      obtain ⟨rfl, rfl, -⟩ : path = _ ∧ argument = _ ∧ rest = _ := by
        simpa using h.symm.trans hcall
      rfl
    · next hnone => simp [h] at hnone

/-- A text is taken of the expressions that stand in an operand, and of no other. -/
theorem map_fst_of_text? {displays left : Displays} {ts : List Token} {text : String}
    (h : text? displays ts = some (text, left)) :
    displays.map Prod.fst = shownIn ts ++ left.map Prod.fst := by
  fun_induction text? displays ts generalizing text left with
  | case1 written s hread =>
    obtain ⟨-, rfl⟩ := Prod.mk.inj (Option.some.inj h)
    simp [shownIn, call?, splitPath]
  | case2 | case3 | case8 | case9 => cases h
  | case4 joined rest ih | case5 joined rest ih =>
    rw [shownIn]
    exact ih h
  | case6 ts _ _ _ argument hcall =>
    rw [shownIn_of_call hcall, if_pos rfl]
    unfold display? at h
    split at h
    · next expr s displays joined group =>
      split at h
      · next hgroup =>
        obtain ⟨-, rfl⟩ := Prod.mk.inj (Option.some.inj h)
        simp [hgroup, within]
      · cases h
    · cases h
  | case7 ts _ _ _ path argument hcall hpath run hrun ih =>
    obtain ⟨⟨s, more⟩, htext, heq⟩ := Option.map_eq_some_iff.1 h
    obtain ⟨-, rfl⟩ := Prod.mk.inj heq
    rw [shownIn_of_call hcall, if_neg hpath]
    exact ih htext

/-- The text of an operand where expressions have the texts that `shown` gives. -/
def operandText? (shown : List Token → Option String) (ts : List Token) : Option String := do
  let displays ← (shownIn ts).mapM fun expr => (shown expr).map (expr, ·)
  match text? displays ts with
  | some (text, []) => some text
  | _ => none

/-- The text that a node writes where expressions have the texts that `shown` gives. -/
def nodeText? (shown : List Token → Option String) : Node → Option String
  | .literal text => some text
  | .value expr escape trim =>
    (shown (code expr)).map fun text =>
      Script.applyTrim trim (if escape then escapeHtml text else text)
  | .code _ => none

/-- The tokens of the operand for a node. -/
def operandTokens (sign : String) (node : Node) : List Token := code (operand sign node)

section
variable {node : Node} {sign : String} (h : completeNode node = true) (hsign : sign ∈ ["&", "&*"])
include h hsign

theorem text?_operandTokens (assigned : String → String) :
    text? (displays assigned [node]) (operandTokens sign node) =
      some (nodeText assigned node, []) ∧
    Complete (operand sign node).toList (operandTokens sign node) := by
  obtain ⟨ts, hcomplete, htext⟩ := denotes_operand assigned h [] hsign
  have hts : operandTokens sign node = ts := by
    rw [operandTokens, code, tokens?_of_complete hcomplete, Option.getD_some]
  rw [hts]
  exact ⟨htext, hcomplete⟩

theorem complete_operandTokens : Complete (operand sign node).toList (operandTokens sign node) :=
  (text?_operandTokens h hsign fun _ => "").2

/-- The operand for a node has the text that the node writes. -/
theorem operandText?_operandTokens (shown : List Token → Option String) :
    operandText? shown (operandTokens sign node) = nodeText? shown node := by
  have htext assigned := (text?_operandTokens h hsign assigned).1
  have hshown := map_fst_of_text? (htext fun _ => "")
  cases node with
  | literal text =>
    have hnil : shownIn (operandTokens sign (.literal text)) = [] := by simpa [displays] using hshown
    have hread : text? [] (operandTokens sign (.literal text)) = some (text, []) := htext fun _ => ""
    simp [operandText?, nodeText?, hnil, hread]
  | value expr escape trim =>
    have hexpr : shownIn (operandTokens sign (.value expr escape trim)) = [code expr] := by
      simpa [displays, eq_comm] using hshown
    cases htexpr : shown (code expr) with
    | none => simp [operandText?, nodeText?, hexpr, htexpr]
    | some text =>
      have hread := htext fun _ => text
      simp only [displays, nodeText] at hread
      simp [operandText?, nodeText?, hexpr, htexpr, hread]
  | code text => cases h

end

/-! ## steps -/

/-- The operand that a statement appends to a variable, and what follows the statement. The
name of the variable comes before `ts`. -/
def appends? : List Token → Option (List Token × List Token)
  | .mark '.' _ :: .word "push_str" :: .opening .round :: ts =>
    match splitGroup? .round [] ts with
    | some (operand, .mark ';' _ :: rest) => some (operand, rest)
    | _ => none
  | _ => none

/-- The head of the block in front, what is in the block, and what follows it. -/
def block? (ts : List Token) : Option (List Token × List Token × List Token) :=
  match ts.dropWhile (· != .opening .curly) with
  | .opening .curly :: rest =>
    (splitGroup? .curly [] rest).map fun (inner, rest) =>
      (ts.takeWhile (· != .opening .curly), inner, rest)
  | _ => none

variable {ε : Type} {m : Meaning ε} {name : String}

/-- One step of a run: the text that it appends to the variable `name`, and the code that is
left to run, each piece with what the variables are there. -/
def step? (m : Meaning ε) (name : String) :
    List (ε × List Token) → Option (String × List (ε × List Token))
  | [] => none
  | (_, []) :: work => some ("", work)
  | (env, t :: ts) :: work =>
    if t = .word name then do
      let (operand, rest) ← appends? ts
      let text ← operandText? (m.text? env) operand
      return (text, (env, rest) :: work)
    else do
      let (head, inner, rest) ← block? (t :: ts)
      let envs ← m.runs? env head
      return ("", envs.map (·, inner) ++ (env, rest) :: work)

/-- Running all the code that is left appends a text. -/
inductive Runs (m : Meaning ε) (name : String) : List (ε × List Token) → String → Prop where
  | done : Runs m name [] ""
  | step {work work' : List (ε × List Token)} {text more : String} :
    step? m name work = some (text, work') → Runs m name work' more → Runs m name work (text ++ more)

/-- A run comes to one text at most. -/
theorem Runs.unique {work : List (ε × List Token)} {text text' : String}
    (h : Runs m name work text) (h' : Runs m name work text') : text = text' := by
  induction h generalizing text' with
  | done =>
    cases h' with
    | done => rfl
    | step hstep hrest => simp [step?] at hstep
  | step hstep hrest ih =>
    cases h' with
    | done => simp [step?] at hstep
    | step hstep' hrest' =>
      obtain ⟨rfl, rfl⟩ := Prod.mk.inj (Option.some.inj (hstep.symm.trans hstep'))
      rw [ih hrest']

section
variable {env : ε} {envs : List ε} {head inner operand rest : List Token}
  {work work' : List (ε × List Token)} {text more : String}

/-- A step may append nothing. -/
theorem Runs.silent (hstep : step? m name work = some ("", work')) (h : Runs m name work' more) :
    Runs m name work more := by
  have hrun := Runs.step hstep h
  rwa [String.empty_append] at hrun

/-- A piece of code that is left ends. -/
theorem Runs.nil (h : Runs m name work more) : Runs m name ((env, []) :: work) more :=
  .silent rfl h

/-- A statement appends the text of its operand. -/
theorem Runs.append (hbrackets : balanced [] operand = true)
    (htext : operandText? (m.text? env) operand = some text) {j k : Bool}
    (h : Runs m name ((env, rest) :: work) more) :
    Runs m name ((env, .word name :: .mark '.' j :: .word "push_str" :: .opening .round ::
      (operand ++ .closing .round :: .mark ';' k :: rest)) :: work) (text ++ more) := by
  refine .step ?_ h
  simp [step?, appends?, splitGroup?_append hbrackets .round, htext]

/-- The first curly bracket opens the block. -/
theorem block?_append (hhead : .opening .curly ∉ head) (hbrackets : balanced [] inner = true)
    (rest : List Token) :
    block? (head ++ .opening .curly :: (inner ++ .closing .curly :: rest)) =
      some (head, inner, rest) := by
  have hall : ∀ t ∈ head, (t != .opening .curly) = true := by grind
  simp [block?, List.takeWhile_append_of_pos hall, List.dropWhile_append_of_pos hall,
    splitGroup?_append hbrackets]

/-- A block runs as often as its head says. -/
theorem Runs.block (hname : head.head? ≠ some (.word name)) (hhead : .opening .curly ∉ head)
    (hbrackets : balanced [] inner = true) (henvs : m.runs? env head = some envs)
    (h : Runs m name (envs.map (·, inner) ++ (env, rest) :: work) more) :
    Runs m name ((env, head ++ .opening .curly :: (inner ++ .closing .curly :: rest)) :: work)
      more := by
  have hblock := block?_append hhead hbrackets rest
  cases head with
  | nil => simp [Meaning.runs?] at henvs
  | cons t head =>
    have hstep : step? m name ((env, t :: (head ++ .opening .curly ::
        (inner ++ .closing .curly :: rest))) :: work) =
          some ("", envs.map (·, inner) ++ (env, rest) :: work) := by
      have ht : t ≠ .word name := by simpa using hname
      rw [List.cons_append] at hblock
      simp [step?, ht, hblock, henvs]
    exact .silent hstep h

/-- Code that runs with the variables in each of some ways appends what it appends in each. -/
theorem Runs.map {text? : ε → Option String} {texts : List String}
    (hturn : ∀ {env text work more}, text? env = some text → Runs m name work more →
      Runs m name ((env, inner) :: work) (text ++ more))
    (htexts : envs.mapM text? = some texts) (h : Runs m name work more) :
    Runs m name (envs.map (·, inner) ++ work) (String.join texts ++ more) := by
  induction envs generalizing texts with
  | nil =>
    obtain rfl : [] = texts := by simpa using htexts
    simpa using h
  | cons env envs ih =>
    obtain ⟨text, htext, others, hothers, rfl⟩ :
        ∃ text, text? env = some text ∧ ∃ ts, envs.mapM text? = some ts ∧ text :: ts = texts := by
      simpa [List.mapM_cons, Option.bind_eq_some_iff] using htexts
    rw [String.join_cons, String.append_assoc]
    exact hturn htext (ih hothers)

end

/-! ## bodies -/

/-- The text that a function with this path makes of an operand. -/
def initial? (shown : List Token → Option String) (path : List String) (operand : List Token) :
    Option String :=
  if path = textPath then operandText? shown operand
  else if path = emptyPath ∧ operand = [] then some "" else none

/-- The variable that is made first, the text in it, and what follows. -/
def opened? (shown : List Token → Option String) (ts : List Token) :
    Option (String × String × List Token) :=
  match ts with
  | .word "let" :: .word "mut" :: .word name :: .mark '=' _ :: rest =>
    match call? rest with
    | some (path, operand, .mark ';' _ :: rest) =>
      (initial? shown path operand).map fun text => (name, text, rest)
    | _ => none
  | _ => none

/-- A body makes a variable with a text, appends to it, and has the text that is in the
variable then. -/
def Writes (m : Meaning ε) (env : ε) (ts : List Token) (text : String) : Prop :=
  ∃ name first statements more,
    opened? (m.text? env) ts = some (name, first, statements ++ [.word name]) ∧
      Runs m name [(env, statements)] more ∧ text = first ++ more

/-- A body has one text at most. -/
theorem Writes.unique {env : ε} {ts : List Token} {text text' : String}
    (h : Writes m env ts text) (h' : Writes m env ts text') : text = text' := by
  obtain ⟨name, first, statements, more, hopened, hruns, rfl⟩ := h
  obtain ⟨name', first', statements', more', hopened', hruns', rfl⟩ := h'
  obtain ⟨rfl, rfl, heq⟩ : name = name' ∧ first = first' ∧
      statements ++ [.word name] = statements' ++ [.word name'] := by
    simpa using hopened.symm.trans hopened'
  obtain rfl := List.append_cancel_right heq
  rw [hruns.unique hruns']

/-! ## parts -/

/-- Nodes of which some make blocks: the code `opening` opens one, which `closing` closes. -/
inductive Parts where
  | nil
  | node (node : Node) (rest : Parts)
  | block (opening : String) (inner : Parts) (closing : String) (rest : Parts)

namespace Parts

/-- The nodes that parts are. -/
def nodes : Parts → Program
  | nil => []
  | node n rest => n :: rest.nodes
  | block opening inner closing rest =>
    .code opening :: (inner.nodes ++ .code closing :: rest.nodes)

/-- The head of the block that code opens. Only the bracket of the block is left open. -/
def head? (opening : String) : Option (List Token) := do
  let ts ← plainTokens? opening.toList
  if ts = ts.dropLast ++ [.opening .curly] ∧ balanced [] ts.dropLast = true ∧
      .opening .curly ∉ ts.dropLast ∧ ts.head? ≠ some (.word accumulator) then
    some ts.dropLast
  else none

/-- Whether code that opens or closes a block does nothing else, and the other nodes are
complete. -/
def areComplete : Parts → Bool
  | nil => true
  | node n rest => completeNode n && rest.areComplete
  | block opening inner closing rest =>
    (head? opening).isSome && inner.areComplete &&
      plainTokens? closing.toList == some [.closing .curly] && rest.areComplete

/-- What parts write. -/
def text? (m : Meaning ε) : Parts → ε → Option String
  | nil, _ => some ""
  | node n rest, env => do
    let text ← nodeText? (m.text? env) n
    let more ← rest.text? m env
    return text ++ more
  | block opening inner _ rest, env => do
    let envs ← (head? opening).bind (m.runs? env)
    let texts ← envs.mapM (inner.text? m)
    let more ← rest.text? m env
    return String.join texts ++ more

section
variable {env : ε} {n : Node} {rest : Parts} {text more : String}

/-- A node writes its text before that of the parts after it. -/
theorem text?_node (htext : nodeText? (m.text? env) n = some text)
    (hmore : rest.text? m env = some more) : (node n rest).text? m env = some (text ++ more) := by
  simp [Parts.text?, htext, hmore]

theorem text?_last (htext : nodeText? (m.text? env) n = some text) :
    (node n nil).text? m env = some text := by
  simp [Parts.text?, htext]

/-- A block writes what it writes each time that it runs. -/
theorem text?_block {opening closing : String} {inner : Parts} {envs : List ε} {texts : List String}
    (henvs : (head? opening).bind (m.runs? env) = some envs)
    (htexts : envs.mapM (inner.text? m) = some texts) (hmore : rest.text? m env = some more) :
    (block opening inner closing rest).text? m env = some (String.join texts ++ more) := by
  simp [Parts.text?, henvs, htexts, hmore]

end

/-- The tokens of the statements for parts. -/
def tokens : Parts → List Token
  | nil => []
  | node n rest =>
    appendingTokens ++ .opening .round ::
      (operandTokens "&" n ++ .closing .round :: .mark ';' false :: rest.tokens)
  | block opening inner _ rest =>
    (head? opening).getD [] ++ .opening .curly :: (inner.tokens ++ .closing .curly :: rest.tokens)

/-- The code of a block's head is the head and a bracket. -/
theorem exists_of_head? {opening : String} {head : List Token} (h : head? opening = some head) :
    plainTokens? opening.toList = some (head ++ [.opening .curly]) ∧ balanced [] head = true ∧
      .opening .curly ∉ head ∧ head.head? ≠ some (.word accumulator) := by
  obtain ⟨ts, hts, h⟩ := Option.bind_eq_some_iff.1 h
  split at h
  · next hall =>
    obtain rfl := Option.some.inj h
    obtain ⟨hlast, hbrackets, hcurly, hname⟩ := hall
    refine ⟨hts.trans (congrArg some hlast), hbrackets, hcurly, ?_⟩
    intro hhead
    rw [hlast] at hname
    grind
  · cases h

/-! ### tokens -/

/-- A line feed goes on with no token. -/
theorem divides_lineFeed : Divides '\n' :=
  ⟨by decide +kernel, by decide +kernel, by decide, by decide, by decide, by decide⟩

/-- Lines have the tokens that they have alone. -/
theorem plainTokens?_lineFeed {cs : List Char} {ts : List Token} (h : plainTokens? cs = some ts)
    (more : List Char) :
    plainTokens? (cs ++ '\n' :: more) = (plainTokens? more).map (ts ++ ·) := by
  have hgap : plainTokens? ('\n' :: more) = plainTokens? more := by
    rw [plainTokens?_cons rfl (.gap (by decide))]
    simp
  rw [plainTokens?_append divides_lineFeed h, hgap]

/-- The tokens of a statement with the operand for a node after `front`. -/
theorem complete_line {front sign : String} {fs : List Token} {node : Node}
    (hfront : Complete front.toList fs) (h : completeNode node = true)
    (hsign : sign ∈ ["&", "&*"]) :
    Complete (line (front ++ "(") sign node)
      (fs ++ .opening .round :: (operandTokens sign node ++ [.closing .round, .mark ';' false])) := by
  have hend : Complete ";".toList [.mark ';' false] := complete_piece (by simp [pieces])
  have hcode : line (front ++ "(") sign node =
      front.toList ++ '(' :: ((operand sign node).toList ++ ')' :: ";".toList) := by
    simp [line]
  rw [hcode]
  exact hfront.round (complete_operandTokens h hsign) hend

/-- The tokens of the statement that appends what a node writes. -/
theorem complete_appending {node : Node} (h : completeNode node = true) :
    Complete (line appendingFront "&" node)
      (appendingTokens ++ .opening .round ::
        (operandTokens "&" node ++ [.closing .round, .mark ';' false])) := by
  have hfront : Complete "__z.push_str".toList appendingTokens := complete_piece (by simp [pieces])
  exact complete_line hfront h (by simp)

/-- The lines of parts have the tokens of the parts. -/
theorem plainTokens?_lines {parts : Parts} (h : parts.areComplete = true) (more : List Char) :
    plainTokens? ((String.join (parts.nodes.map nodeLines)).toList ++ more) =
      (plainTokens? more).map (parts.tokens ++ ·) := by
  induction parts generalizing more with
  | nil => simp [nodes, tokens]
  | node n rest ih =>
    obtain ⟨hn, hrest⟩ := Bool.and_eq_true_iff.1 h
    have hcode : ∀ text, n ≠ .code text := by
      rintro text rfl
      cases hn
    rw [nodes, List.map_cons, String.join_cons, String.toList_append, toList_nodeLines hcode,
      List.append_assoc, List.append_assoc, List.singleton_append,
      plainTokens?_lineFeed (complete_appending hn).tokens, ih hrest, Option.map_map]
    simp [tokens, Function.comp_def]
  | block opening inner closing rest ihinner ihrest =>
    simp only [areComplete, Bool.and_eq_true, beq_iff_eq] at h
    obtain ⟨⟨⟨hopening, hinner⟩, hclosing⟩, hrest⟩ := h
    obtain ⟨head, hhead⟩ := Option.isSome_iff_exists.1 hopening
    have hlines : (String.join ((block opening inner closing rest).nodes.map nodeLines)).toList ++
        more = opening.toList ++ '\n' :: ((String.join (inner.nodes.map nodeLines)).toList ++
          (closing.toList ++ '\n' :: ((String.join (rest.nodes.map nodeLines)).toList ++ more))) := by
      simp [nodes, nodeLines, List.flatMap_def]
    rw [hlines, plainTokens?_lineFeed (exists_of_head? hhead).1, ihinner hinner,
      plainTokens?_lineFeed hclosing, ihrest hrest]
    simp [tokens, hhead, Function.comp_def, Option.map_map]

/-- The brackets of the tokens match. -/
theorem balanced_tokens {parts : Parts} (h : parts.areComplete = true) :
    balanced [] parts.tokens = true := by
  induction parts with
  | nil => rfl
  | node n rest ih =>
    obtain ⟨hn, hrest⟩ := Bool.and_eq_true_iff.1 h
    have hall := balanced_append (complete_appending hn).brackets [] rest.tokens
    simpa [tokens, ih hrest] using hall
  | block opening inner closing rest ihinner ihrest =>
    simp only [areComplete, Bool.and_eq_true] at h
    obtain ⟨⟨⟨hopening, hinner⟩, -⟩, hrest⟩ := h
    obtain ⟨head, hhead⟩ := Option.isSome_iff_exists.1 hopening
    have hall := balanced_append (ihinner hinner) [.curly] (.closing .curly :: rest.tokens)
    have houter := balanced_append (exists_of_head? hhead).2.1 [] (.opening .curly ::
      (inner.tokens ++ .closing .curly :: rest.tokens))
    simp_all [tokens, balanced]

/-! ### runs -/

/-- To run the tokens of parts is to append what the parts write. -/
theorem runs_tokens {parts : Parts} (h : parts.areComplete = true) {env : ε} {text more : String}
    (htext : parts.text? m env = some text) {rest : List Token} {work : List (ε × List Token)}
    (hrest : Runs m accumulator ((env, rest) :: work) more) :
    Runs m accumulator ((env, parts.tokens ++ rest) :: work) (text ++ more) := by
  induction parts generalizing env text more rest work with
  | nil =>
    obtain rfl : "" = text := by simpa [Parts.text?] using htext
    rwa [String.empty_append]
  | node n others ih =>
    obtain ⟨hn, hothers⟩ := Bool.and_eq_true_iff.1 h
    obtain ⟨first, hfirst, others', hothers', rfl⟩ : ∃ s, nodeText? (m.text? env) n = some s ∧
        ∃ s', others.text? m env = some s' ∧ s ++ s' = text := by
      simpa [Parts.text?, Option.bind_eq_some_iff] using htext
    have hsign : "&" ∈ ["&", "&*"] := by simp
    have hoperand := operandText?_operandTokens hn hsign (m.text? env)
    have hruns := Runs.append (j := false) (k := false) (complete_operandTokens hn hsign).brackets
      (hoperand.trans hfirst) (ih hothers hothers' hrest)
    rw [String.append_assoc]
    simpa [tokens, appendingTokens] using hruns
  | block opening inner closing others ihinner ihothers =>
    simp only [areComplete, Bool.and_eq_true] at h
    obtain ⟨⟨⟨hopening, hinner⟩, -⟩, hothers⟩ := h
    obtain ⟨head, hhead⟩ := Option.isSome_iff_exists.1 hopening
    obtain ⟨envs, henvs, texts, htexts, others', hothers', rfl⟩ : ∃ envs,
        m.runs? env head = some envs ∧ ∃ texts, envs.mapM (inner.text? m) = some texts ∧
          ∃ s', others.text? m env = some s' ∧ String.join texts ++ s' = text := by
      simpa [Parts.text?, hhead, Option.bind_eq_some_iff] using htext
    obtain ⟨-, hbrackets, hcurly, hname⟩ := exists_of_head? hhead
    have hturn : ∀ {env text work more}, inner.text? m env = some text →
        Runs m accumulator work more →
          Runs m accumulator ((env, inner.tokens) :: work) (text ++ more) := by
      intro env text work more htext hwork
      simpa using ihinner hinner htext hwork.nil
    have hblock := Runs.map hturn htexts (ihothers hothers hothers' hrest)
    have hruns := Runs.block hname hcurly (balanced_tokens hinner) henvs hblock
    simpa [tokens, hhead, String.append_assoc] using hruns

/-! ### bodies -/

/-- The tokens of a body whose first line makes the variable, and whose other ones are those
of parts. -/
theorem tokens?_of_line {parts : Parts} (h : parts.areComplete = true) {code : String}
    {front : List Char} {ts : List Token} (hfront : Complete front ts)
    (hcode : code.toList = front ++ '\n' ::
      ((String.join (parts.nodes.map nodeLines)).toList ++ accumulator.toList)) :
    tokens? code = some (ts ++ (parts.tokens ++ [.word accumulator])) := by
  have hlast : plainTokens? accumulator.toList = some [.word accumulator] :=
    (complete_piece (by simp [pieces])).tokens
  refine tokens?_of_complete ⟨?_, ?_⟩
  · rw [hcode, plainTokens?_lineFeed hfront.tokens, plainTokens?_lines h, hlast]
    rfl
  · have hstatements := balanced_append (balanced_tokens h) [] [.word accumulator]
    exact (balanced_append hfront.brackets [] _).trans hstatements

/-- Such a body writes what the variable is made with, and what the parts write. -/
theorem writes_of_opened {parts : Parts} (h : parts.areComplete = true) {env : ε}
    {first more : String} {ts : List Token}
    (hopened : ∀ rest, opened? (m.text? env) (ts ++ rest) = some (accumulator, first, rest))
    (hmore : parts.text? m env = some more) :
    Writes m env (ts ++ (parts.tokens ++ [.word accumulator])) (first ++ more) := by
  have hend : Runs m accumulator [(env, [])] "" := .nil .done
  have hruns := runs_tokens h hmore hend
  rw [List.append_nil, String.append_empty] at hruns
  exact ⟨accumulator, first, parts.tokens, more, hopened _, hruns, rfl⟩

/-- **The body for parts writes what the parts write.** Run where expressions, conditions and
loops have a meaning, it gathers the texts of the nodes, those in a block as often as the
block runs. -/
theorem writes_body {parts : Parts} (h : parts.areComplete = true) (hne : parts ≠ .nil) :
    ∃ ts, tokens? (body parts.nodes) = some ts ∧
      ∀ {ε : Type} {m : Meaning ε} {env : ε} {text : String}, parts.text? m env = some text →
        Writes m env ts text := by
  cases parts with
  | nil => exact absurd rfl hne
  | node n rest =>
    obtain ⟨hn, hrest⟩ := Bool.and_eq_true_iff.1 h
    have hsign : "&*" ∈ ["&", "&*"] := by simp
    have hcode : ∀ text, n ≠ .code text := by
      rintro text rfl
      cases hn
    have hfront : Complete "let mut __z = ::std::string::String::from".toList
        (makingTokens ++ pathTokens textPath) := complete_piece (by simp [pieces])
    have hlines : (body (node n rest).nodes).toList = line openingFront "&*" n ++ '\n' ::
        ((String.join (rest.nodes.map nodeLines)).toList ++ accumulator.toList) := by
      simp [body, nodes, toList_openingLines hcode]
    refine ⟨_, tokens?_of_line hrest (complete_line hfront hn hsign) hlines, ?_⟩
    intro ε m env text htext
    obtain ⟨first, hfirst, more, hmore, rfl⟩ : ∃ s, nodeText? (m.text? env) n = some s ∧
        ∃ s', rest.text? m env = some s' ∧ s ++ s' = text := by
      simpa [Parts.text?, Option.bind_eq_some_iff] using htext
    refine writes_of_opened hrest (fun others => ?_) hmore
    have hcall := call?_pathTokens textPath (complete_operandTokens hn hsign).brackets
      (.mark ';' false :: others)
    have hoperand := operandText?_operandTokens hn hsign (m.text? env)
    simp [opened?, makingTokens, hcall, initial?, hoperand, hfirst]
  | block opening inner closing rest =>
    have hfront : Complete "let mut __z = ::std::string::String::new();".toList
        (makingTokens ++ (pathTokens emptyPath ++
          [.opening .round, .closing .round, .mark ';' false])) :=
      complete_piece (by simp [pieces])
    refine ⟨_, tokens?_of_line h hfront (by simp [body, nodes, openingLines, nodeLines, accumulator]),
      ?_⟩
    intro ε m env text htext
    rw [← String.empty_append (s := text)]
    refine writes_of_opened h (fun others => ?_) htext
    have hnil : balanced [] [] = true := rfl
    have hcall := call?_pathTokens emptyPath hnil (.mark ';' false :: others)
    have hpath : emptyPath ≠ textPath := by decide
    rw [List.nil_append] at hcall
    simp [opened?, makingTokens, hcall, initial?, hpath]

/-- **The function for a template writes what its parts write**, and nothing else. -/
theorem function_writes {parts : Parts} (h : parts.areComplete = true) (hne : parts ≠ .nil)
    {delimiters : Delimiters} {name word source : String} (hname : functionName? name = some word)
    (hbuild : Program.build? delimiters source = some parts.nodes) :
    ∃ tokens,
      (∀ o : Options, o.delimiters = delimiters →
        functionTokens name source o = .ok (functionAround word o tokens)) ∧
      ∀ {ε : Type} {m : Meaning ε} {env : ε} {text : String}, parts.text? m env = some text →
        ∀ text', Writes m env tokens text' ↔ text' = text := by
  obtain ⟨tokens, htokens, hwrites⟩ := writes_body h hne
  refine ⟨tokens, ?_, ?_⟩
  · intro o ho
    have hbody : bodyTokens? o.delimiters source = some tokens := by
      rw [bodyTokens?, ho, hbuild]
      exact htokens
    exact functionTokens_of_body hname hbody
  · intro ε m env text htext text'
    constructor
    · intro h'
      exact h'.unique (hwrites htext)
    · rintro rfl
      exact hwrites htext

end Parts

end Stencil.Codegen
