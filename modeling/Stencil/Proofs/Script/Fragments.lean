import Stencil.Proofs.Script.Joining
import Stencil.Proofs.Script.Separation

/-!
# Stencil.Proofs.Script.Fragments

Code in several markers, and the same code in one marker on several lines.

1. A line ends every lexeme but strings and block comments, which have ends of
   their own. So the tokens of two pieces of code with a line end between them are
   those of the pieces (`Lexed.lines`, `tokens_lines`). They are not those of the two
   pieces put together as they are: `1` and `2` would become `12`.
2. Offsets do not matter to the parser: tokens that differ in nothing else are read as
   the same statements (`builds_congr`).
3. A marker that is divided has the tokens of the two markers it is divided into, at
   other offsets (`Collected.replace`), and so has every template around it.
-/

namespace Stencil.Script

open Text Unicode
open Parse

/-! ## lines of code -/

/-- A line feed goes on with no lexeme. -/
theorem divides_newline : Divides '\n' where
  part := by decide
  digit := by decide
  point := by decide
  slash := by decide
  star := by decide
  mark p := by cases p <;> decide

/-- A comment goes on to the end of its line, and takes the line end if it has none
yet. -/
theorem lexeme_comment_newline {c : Char} {cs text rest : List Char} {tok? : Option Tok}
    (h : lexeme c cs = .ok (tok?, rest)) (htext : c :: cs = text ++ rest)
    (hcomment : IsComment text) (more : List Char) :
    tok? = none ∧ (lexeme c (cs ++ '\n' :: more) = .ok (none, rest ++ '\n' :: more) ∨
      rest = [] ∧ lexeme c (cs ++ '\n' :: more) = .ok (none, more)) := by
  have hwhite : isWhiteSpace '/' = false := by decide
  obtain ⟨body, rfl⟩ | ⟨body, rfl⟩ := hcomment
  · obtain ⟨rfl, rfl⟩ : c = '/' ∧ cs = '/' :: (body ++ rest) := by simpa using htext
    rw [lexeme_lineComment] at h
    obtain ⟨rfl, hrest⟩ := Prod.mk.inj (Except.ok.inj h)
    refine ⟨rfl, ?_⟩
    rw [List.cons_append, lexeme_lineComment, dropWhile_append_cons (by decide)]
    cases hdrop : (body ++ rest).dropWhile (· != '\n') with
    | nil =>
      rw [hdrop, List.drop_nil] at hrest
      exact .inr ⟨hrest.symm, rfl⟩
    | cons d ds =>
      rw [hdrop] at hrest
      left
      rw [← hrest]
      rfl
  · obtain ⟨rfl, rfl⟩ : c = '/' ∧ cs = '*' :: (body ++ rest) := by simpa using htext
    cases hcut : cutAt? ['*', '/'] (body ++ rest) with
    | none =>
      unfold lexeme at h
      simp [hwhite, hcut] at h
    | some cut =>
      obtain ⟨before, after⟩ := cut
      rw [lexeme_blockComment hcut] at h
      obtain ⟨rfl, rfl⟩ : none = tok? ∧ after = rest := by simpa using h
      exact ⟨rfl, .inl (lexeme_blockComment (cutAt?_append hcut _))⟩

/-- A lexeme ends with its line, or goes on to its own end. -/
theorem lexeme_newline {c : Char} {cs text rest : List Char} {tok? : Option Tok}
    (h : lexeme c cs = .ok (tok?, rest)) (htext : c :: cs = text ++ rest) (more : List Char) :
    lexeme c (cs ++ '\n' :: more) = .ok (tok?, rest ++ '\n' :: more) ∨
      tok? = none ∧ rest = [] ∧ lexeme c (cs ++ '\n' :: more) = .ok (none, more) := by
  by_cases hcomment : IsComment text
  · obtain ⟨rfl, hnext | ⟨hrest, hnext⟩⟩ := lexeme_comment_newline h htext hcomment more
    · exact .inl hnext
    · exact .inr ⟨rfl, hrest, hnext⟩
  · exact .inl (lexeme_append divides_newline h htext hcomment more)

/-- The lexemes of two lines are those of each, but for the line end, which is
white space or the end of a comment. -/
theorem Lexed.lines {a b : List Char} {ls ls' : List Lexeme} (h : Lexed a ls) (h' : Lexed b ls') :
    ∃ joined, Lexed (a ++ '\n' :: b) joined ∧
      ∀ base, placed base joined = placed base ls ++ placed (base + octets a + 1) ls' := by
  induction h with
  | nil => exact ⟨⟨['\n'], none⟩ :: ls', .cons rfl rfl h', fun base => rfl⟩
  | @cons c cs text rest tok? ls hlexeme htext hrest ih =>
    rcases lexeme_newline hlexeme htext b with hnext | ⟨rfl, rfl, hnext⟩
    · obtain ⟨joined, hlexed, hplaced⟩ := ih
      have hjoined : c :: (cs ++ '\n' :: b) = text ++ (rest ++ '\n' :: b) := by
        rw [← List.append_assoc, ← htext, List.cons_append]
      refine ⟨⟨text, tok?⟩ :: joined, .cons hnext hjoined hlexed, fun base => ?_⟩
      have hoctets : base + octets (c :: cs) = base + octets text + octets rest := by
        rw [htext, octets_append, Nat.add_assoc]
      rw [placed, placed, hplaced, hoctets, List.append_assoc]
    · cases hrest
      rw [List.append_nil] at htext
      have hjoined : c :: (cs ++ '\n' :: b) = (text ++ ['\n']) ++ b := by
        rw [← htext]
        simp
      refine ⟨⟨text ++ ['\n'], none⟩ :: ls', .cons hnext hjoined h', fun base => ?_⟩
      have hoctets : base + octets (text ++ ['\n']) = base + octets (c :: cs) + 1 := by
        rw [htext, octets_append, ← Nat.add_assoc]
        rfl
      rw [placed, placed, placed, hoctets]
      rfl

section
variable {base : Nat} {a b : String} {ts ts' : List Token}

/-- Two lines of code have the tokens of both. -/
theorem tokens_lines (ha : tokens base a = .ok ts)
    (hb : tokens (base + octets a.toList + 1) b = .ok ts') :
    tokens base (a ++ "\n" ++ b) = .ok (ts ++ ts') := by
  obtain ⟨ls, hls, rfl⟩ := exists_of_tokens ha
  obtain ⟨ls', hls', rfl⟩ := exists_of_tokens hb
  obtain ⟨joined, hlexed, hplaced⟩ := hls.lines hls'
  have hcode : (a ++ "\n" ++ b).toList = a.toList ++ '\n' :: b.toList := by simp
  rw [← hcode] at hlexed
  rw [tokens_of_lexed hlexed, hplaced]

theorem toks_placed (base : Nat) (ls : List Lexeme) :
    (placed base ls).map Token.tok = ls.filterMap Lexeme.tok? := by
  induction ls generalizing base with
  | nil => rfl
  | cons l ls ih =>
    obtain ⟨text, tok?⟩ := l
    rw [placed, List.map_append, ih]
    cases tok? <;> rfl

/-- Code that is accepted somewhere is accepted anywhere. -/
theorem tokens_anywhere (h : tokens base a = .ok ts) (base' : Nat) :
    ∃ ts', tokens base' a = .ok ts' ∧ ts'.map Token.tok = ts.map Token.tok := by
  obtain ⟨ls, hls, rfl⟩ := exists_of_tokens h
  exact ⟨placed base' ls, tokens_of_lexed hls base', by rw [toks_placed, toks_placed]⟩

end

/-! ## tokens at other offsets -/

/-- Tokens at other offsets. The offset of a token is told by the number of tokens after
it, so what is left of tokens keeps its offsets. -/
def relocate (place : Nat → Nat) : List Token → List Token
  | [] => []
  | t :: ts => ⟨t.tok, place ts.length⟩ :: relocate place ts

section
variable {place : Nat → Nat} {ts ts' r : List Token}

theorem relocate_congr {place' : Nat → Nat} (h : ∀ n < ts.length, place n = place' n) :
    relocate place ts = relocate place' ts := by
  induction ts with
  | nil => rfl
  | cons t ts ih =>
    have hrest : ∀ n < ts.length, place n = place' n := fun n hn => h n (Nat.lt_succ_of_lt hn)
    rw [relocate, relocate, ih hrest, h ts.length (Nat.lt_succ_self _)]

/-- Tokens are moved one by one, counted from the end. -/
theorem relocate_append (place : Nat → Nat) (ts ts' : List Token) :
    relocate place (ts ++ ts') =
      relocate (fun n => place (n + ts'.length)) ts ++ relocate place ts' := by
  induction ts with
  | nil => rfl
  | cons t ts ih => simp [relocate, ih]

/-- Tokens that differ in nothing but their offsets. -/
theorem exists_relocate (h : ts.map Token.tok = ts'.map Token.tok) :
    ∃ place, relocate place ts = ts' := by
  induction ts generalizing ts' with
  | nil =>
    obtain rfl : ts' = [] := List.map_eq_nil_iff.1 h.symm
    exact ⟨id, rfl⟩
  | cons t ts ih =>
    cases ts' with
    | nil => cases h
    | cons t' ts' =>
      obtain ⟨htok, hrest⟩ : t.tok = t'.tok ∧ ts.map Token.tok = ts'.map Token.tok := by
        simpa using h
      obtain ⟨place, rfl⟩ := ih hrest
      refine ⟨fun n => if n = ts.length then t'.offset else place n, ?_⟩
      have hlater : relocate (fun n => if n = ts.length then t'.offset else place n) ts =
          relocate place ts := relocate_congr fun n hn => if_neg (Nat.ne_of_lt hn)
      rw [relocate, hlater, if_pos rfl, htok]

/-- The next token is the same wherever it stands. -/
theorem next_relocate {P : Tok → Prop} : Next P (relocate place ts) ↔ Next P ts := by
  cases ts with
  | nil => rfl
  | cons t ts => simp [relocate]

theorem skipSemicolon_relocate (h : (skipSemicolon ts).1 = r) :
    (skipSemicolon (relocate place ts)).1 = relocate place r := by
  by_cases hnext : Next (· ≠ .punct .semicolon) ts
  · obtain rfl : ts = r := (skipSemicolon_of_next hnext).symm.trans h
    exact skipSemicolon_of_next (next_relocate.2 hnext)
  · cases ts with
    | nil => exact absurd (next_nil _) hnext
    | cons t ts =>
      obtain ⟨tok, o⟩ := t
      obtain rfl : tok = .punct .semicolon := by simpa using hnext
      obtain rfl : ts = r := h
      rfl

theorem opensExpression_relocate {tok : Tok} (h : OpensExpression tok ts) :
    OpensExpression tok (relocate place ts) := by
  unfold OpensExpression at h ⊢
  split at h
  · exact h
  · exact h
  · exact h
  · exact h
  · exact ⟨h.1, next_relocate.2 h.2⟩
  · trivial

/-- Phrases are read wherever their tokens stand. -/
theorem Parse.Reads.relocate {p : Phrase} {v : p.Value} (h : Reads p ts v r) (place : Nat → Nat) :
    Reads p (relocate place ts) v (relocate place r) := by
  induction h with
  | plain hcondition hnext ih => exact .plain ih (next_relocate.2 hnext)
  | conditional hcondition hyes hno ih ih₁ ih₂ => exact .conditional ih ih₁ ih₂
  | binary hleft hrest ih ih₁ => exact .binary ih ih₁
  | stop hnext => exact .stop (next_relocate.2 hnext)
  | operator hop hlt hright hrest ih ih₁ => exact .operator hop hlt ih ih₁
  | operand hop hoperand ih => exact .operand hop ih
  | sign hop hoperand ih => exact .sign hop ih
  | postfixed hprimary hrest ih ih₁ => exact .postfixed ih ih₁
  | bare hnext => exact .bare (next_relocate.2 hnext)
  | member hrest ih => exact .member ih
  | index hkey hrest ih ih₁ => exact .index ih ih₁
  | call hargs hrest ih ih₁ => exact .call ih ih₁
  | noItems => exact .noItems
  | lastItem hclose hcomma hitem ih => exact .lastItem hclose hcomma ih
  | item hclose hitem hrest ih ih₁ => exact .item hclose ih ih₁
  | noEntries => exact .noEntries
  | lastEntry hclose hentry ih => exact .lastEntry hclose ih
  | entry hclose hentry hrest ih ih₁ => exact .entry hclose ih ih₁
  | short hkey hnext => exact .short hkey (next_relocate.2 hnext)
  | full hkey hvalue ih => exact .full hkey ih
  | number => exact .number
  | string => exact .string
  | ident hname => exact .ident hname
  | constant hk hvalue => exact .constant hk hvalue
  | parens hinner ih => exact .parens ih
  | array hitems ih => exact .array ih
  | object hentries ih => exact .object ih

/-- Statements are read wherever their tokens stand. -/
theorem Parse.Builds.relocate {c : Clause} {v : c.Value} (h : Builds c ts v r)
    (place : Nat → Nat) : Builds c (relocate place ts) v (relocate place r) := by
  induction h with
  | emit => exact .emit
  | empty => exact .empty
  | block hbody ih => exact .block ih
  | branch hword hread hyes helse ih =>
    exact .branch hword (hread.relocate place) ih
      (eatKeyword?_eq_none_iff.2 (next_relocate.2 (eatKeyword?_eq_none_iff.1 helse)))
  | branchElse hword hread hyes helse hno ih ih₁ =>
    exact .branchElse hword (hread.relocate place) ih helse ih₁
  | @loop front ts r₁ r word x kind e body o o₁ o₂ o₃ o₄ hword hfront hx hread hbody ih =>
    have hfront' : ∀ place, Declarator (Script.relocate place front) := by
      intro place
      rcases hfront with rfl | ⟨word, o, rfl, hword⟩
      · exact .inl rfl
      · exact .inr ⟨word, place 0, rfl, hword⟩
    rw [Script.relocate, Script.relocate, relocate_append]
    exact .loop hword (hfront' _) hx (hread.relocate place) ih
  | declare hword hx hnext hend =>
    exact .declare hword hx (next_relocate.2 hnext) (skipSemicolon_relocate hend)
  | declareAs hword hx hread hend =>
    exact .declareAs hword hx (hread.relocate place) (skipSemicolon_relocate hend)
  | assign hx hop hread hend =>
    exact .assign hx hop (hread.relocate place) (skipSemicolon_relocate hend)
  | expr hopens hread hend =>
    exact .expr (opensExpression_relocate hopens) (hread.relocate place)
      (skipSemicolon_relocate hend)
  | done => exact .done
  | next hs hbody ih ih₁ => exact .next ih ih₁

/-- Offsets do not matter to what tokens are read as. -/
theorem builds_congr {body : List Stmt} (h : ts.map Token.tok = ts'.map Token.tok)
    (hbuilds : Builds .statements ts body []) : Builds .statements ts' body [] := by
  obtain ⟨place, rfl⟩ := exists_relocate h
  exact hbuilds.relocate place

end

/-! ## nodes in the place of others -/

section
variable {base index : Nat} {P P' Q : Program} {ts : List Token} {os : List Output}

/-- The tokens of nodes are those of their parts. -/
theorem Collected.exists_of_append (h : Collected base index (P ++ Q) ts os) :
    ∃ ts₁ os₁ ts₂ os₂, Collected base index P ts₁ os₁ ∧
      Collected (base + extent P) (index + os₁.length) Q ts₂ os₂ ∧
      ts = ts₁ ++ ts₂ ∧ os = os₁ ++ os₂ := by
  induction P generalizing base index ts os with
  | nil => exact ⟨[], [], ts, os, .nil, h, rfl, rfl⟩
  | cons node P ih =>
    cases h with
    | code hts hmore =>
      obtain ⟨ts₁, os₁, ts₂, os₂, h₁, h₂, rfl, rfl⟩ := ih hmore
      rw [Nat.add_assoc] at h₂
      exact ⟨_, os₁, ts₂, os₂, .code hts h₁, h₂, by rw [List.append_assoc], rfl⟩
    | literal hmore =>
      obtain ⟨ts₁, os₁, ts₂, os₂, h₁, h₂, rfl, rfl⟩ := ih hmore
      rw [Nat.add_assoc, Nat.add_assoc, Nat.add_comm 1] at h₂
      exact ⟨_, _, ts₂, os₂, .literal h₁, h₂, rfl, rfl⟩
    | value htree hmore =>
      obtain ⟨ts₁, os₁, ts₂, os₂, h₁, h₂, rfl, rfl⟩ := ih hmore
      rw [Nat.add_assoc, Nat.add_assoc, Nat.add_comm 1] at h₂
      exact ⟨_, _, ts₂, os₂, .value htree h₁, h₂, rfl, rfl⟩

/-- Nodes have the same tokens and outputs wherever they stand. -/
theorem Collected.anywhere (h : Collected base index P ts os) (base' : Nat) :
    ∃ ts', Collected base' index P ts' os ∧ ts'.map Token.tok = ts.map Token.tok := by
  induction h generalizing base' with
  | nil => exact ⟨[], .nil, rfl⟩
  | code hts hmore ih =>
    obtain ⟨front, hfront, htoks⟩ := tokens_anywhere hts base'
    obtain ⟨more, hcollected, hmoretoks⟩ := ih (base' + octets _)
    exact ⟨front ++ more, .code hfront hcollected, by
      rw [List.map_append, List.map_append, htoks, hmoretoks]⟩
  | literal hmore ih =>
    obtain ⟨more, hcollected, htoks⟩ := ih (base' + octets _)
    exact ⟨_, .literal hcollected, by rw [List.map_cons, List.map_cons, htoks]⟩
  | value htree hmore ih =>
    obtain ⟨more, hcollected, htoks⟩ := ih (base' + octets _)
    exact ⟨_, .value htree hcollected, by rw [List.map_cons, List.map_cons, htoks]⟩

/-- The nodes `P'` have the tokens and the outputs of the nodes `P`. -/
def Replaces (P' P : Program) : Prop :=
  ∀ {base index ts os}, Collected base index P ts os →
    ∃ ts', Collected base index P' ts' os ∧ ts'.map Token.tok = ts.map Token.tok

/-- Nodes among others give way to nodes with the same tokens. -/
theorem Collected.replace {front : Program} (hreplaces : Replaces P' P)
    (h : Collected base index (front ++ P ++ Q) ts os) :
    ∃ ts', Collected base index (front ++ P' ++ Q) ts' os ∧
      ts'.map Token.tok = ts.map Token.tok := by
  rw [List.append_assoc] at h
  obtain ⟨ts₁, os₁, _, _, h₁, hrest, rfl, rfl⟩ := h.exists_of_append
  obtain ⟨ts₂, os₂, ts₃, os₃, h₂, h₃, rfl, rfl⟩ := hrest.exists_of_append
  obtain ⟨ts₂', h₂', htoks₂⟩ := hreplaces h₂
  obtain ⟨ts₃', h₃', htoks₃⟩ := h₃.anywhere (base + extent front + extent P')
  refine ⟨ts₁ ++ (ts₂' ++ ts₃'), ?_, by simp only [List.map_append, htoks₂, htoks₃]⟩
  rw [List.append_assoc]
  exact h₁.append (h₂'.append h₃')

/-- Nodes with the same tokens may stand for each other in a program. -/
theorem ofProgram_replace {front : Program} {script : Tree} (hreplaces : Replaces P' P)
    (h : ofProgram (front ++ P ++ Q) = .ok script) :
    ofProgram (front ++ P' ++ Q) = .ok script := by
  obtain ⟨ts, hcollected, hbuilds⟩ := ofProgram_eq_ok_iff.1 h
  obtain ⟨ts', hcollected', htoks⟩ := hcollected.replace hreplaces
  exact ofProgram_eq_ok_iff.2 ⟨ts', hcollected', builds_congr htoks.symm hbuilds⟩

end

/-! ## divided code -/

section
variable {a b : String}

/-- One marker in the place of two. -/
theorem replaces_lines : Replaces [.code (a ++ "\n" ++ b)] [.code a, .code b] := by
  intro base index ts os h
  cases h with
  | code ha hmore =>
    cases hmore with
    | code hb hnil =>
      cases hnil
      obtain ⟨back, hback, htoks⟩ := tokens_anywhere hb (base + octets a.toList + 1)
      refine ⟨_, .code (tokens_lines ha hback) .nil, ?_⟩
      simp only [List.map_append, htoks, List.append_nil]

/-- Two markers in the place of one, if each of them is accepted. -/
theorem replaces_markers {i j : Nat} {front back : List Token} (ha : tokens i a = .ok front)
    (hb : tokens j b = .ok back) : Replaces [.code a, .code b] [.code (a ++ "\n" ++ b)] := by
  intro base index ts os h
  cases h with
  | code hjoined hnil =>
    cases hnil
    obtain ⟨ts, hts, -⟩ := tokens_anywhere ha base
    obtain ⟨ts', hts', htoks'⟩ := tokens_anywhere hb (base + octets a.toList + 1)
    obtain ⟨ts'', hts'', htoks''⟩ := tokens_anywhere hb (base + octets a.toList)
    rw [tokens_lines hts hts'] at hjoined
    obtain rfl := Except.ok.inj hjoined
    refine ⟨_, .code hts (.code hts'' .nil), ?_⟩
    simp only [List.map_append, List.append_nil, htoks', htoks'']

/-- **Code may be divided over markers.** If two pieces of code are accepted by the
lexer, the tokens of both with a line end between them are the tokens of the first
one and then those of the second one, at the offsets where they stand; and two
markers with the pieces make a template the same script as one marker with both, or
none in either case. -/
theorem code_divides {i j : Nat} (ha : (tokens i a).isOk = true) (hb : (tokens j b).isOk = true) :
    (∀ base, ∃ ts ts', tokens base a = .ok ts ∧
      tokens (base + octets a.toList + 1) b = .ok ts' ∧
      tokens base (a ++ "\n" ++ b) = .ok (ts ++ ts')) ∧
    ∀ (P Q : Program) (script : Tree),
      ofProgram (P ++ [.code a, .code b] ++ Q) = .ok script ↔
        ofProgram (P ++ [.code (a ++ "\n" ++ b)] ++ Q) = .ok script := by
  obtain ⟨front, hfront⟩ := Except.exists_of_isOk ha
  obtain ⟨back, hback⟩ := Except.exists_of_isOk hb
  constructor
  · intro base
    obtain ⟨ts, hts, -⟩ := tokens_anywhere hfront base
    obtain ⟨ts', hts', -⟩ := tokens_anywhere hback (base + octets a.toList + 1)
    exact ⟨ts, ts', hts, hts', tokens_lines hts hts'⟩
  · intro P Q script
    exact ⟨ofProgram_replace replaces_lines, ofProgram_replace (replaces_markers hfront hback)⟩

end

/-- A comment that goes on to the end of its piece of code, in front of a string, and
brackets that are closed in another marker. -/
theorem code_divides_comment :
    (tokens 0 "for (v of z) \x7b // items").isOk = true ∧ (tokens 0 "let s = \"//\"").isOk = true ∧
    (∃ ts ts', tokens 7 "for (v of z) \x7b // items" = .ok ts ∧
      tokens 31 "let s = \"//\"" = .ok ts' ∧
      tokens 7 "for (v of z) \x7b // items\nlet s = \"//\"" = .ok (ts ++ ts')) ∧
    ∃ script,
      ofProgram [.literal "<", .code "for (v of z) \x7b // items", .code "let s = \"//\"",
        .value "v + s" true .none, .code "\x7d"] = .ok script ∧
      ofProgram [.literal "<", .code "for (v of z) \x7b // items\nlet s = \"//\"",
        .value "v + s" true .none, .code "\x7d"] = .ok script := by
  have ha : (tokens 0 "for (v of z) \x7b // items").isOk = true := by decide +kernel
  have hb : (tokens 0 "let s = \"//\"").isOk = true := by decide +kernel
  obtain ⟨script, hscript⟩ := Except.exists_of_isOk
    (show (ofProgram [.literal "<", .code "for (v of z) \x7b // items", .code "let s = \"//\"",
      .value "v + s" true .none, .code "\x7d"]).isOk = true by decide +kernel)
  obtain ⟨htokens, hscripts⟩ := code_divides ha hb
  exact ⟨ha, hb, htokens 7, script, hscript,
    (hscripts [.literal "<"] [.value "v + s" true .none, .code "\x7d"] script).1 hscript⟩

end Stencil.Script
