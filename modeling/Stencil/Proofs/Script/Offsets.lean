import Stencil.Proofs.Script.ErrorPlaces
import Stencil.Proofs.Script.Separation
import Stencil.Proofs.Template.Lossless
import Stencil.Proofs.Template.Slices

/-!
# Stencil.Proofs.Script.Offsets

Where tokens stand. Accepted code is made of the texts of its tokens and of gaps, white
space and whole comments, and a token has the offset at which its text begins (`Spans`).
The code of a template is read in pieces, and each piece has its offsets in the texts of
all nodes put together (`Stands`), so what an error shows is what stands there before the
token of the mistake: `offsets_true`.

The texts of tokens are not empty, and neither is a text or a value that the token of an
output stands for. This is why no two tokens have the same offset.
-/

namespace Stencil.Script

open Text Unicode
open Parse

/-! ## gaps -/

/-- What may stand between tokens, in front of `rest`: a character of white space, or a
comment as far as it goes. -/
inductive Gap : (text rest : List Char) → Prop where
  | white {c : Char} {rest : List Char} : isWhiteSpace c = true → Gap [c] rest
  | line {body rest : List Char} : '\n' ∉ body → Gap ('/' :: '/' :: body ++ ['\n']) rest
  /-- The last line of a piece of code has no end. -/
  | lastLine {body : List Char} : '\n' ∉ body → Gap ('/' :: '/' :: body) []
  | block {body rest : List Char} : ¬ ['*', '/'] <:+: body →
    Gap ('/' :: '*' :: body ++ ['*', '/']) rest

/-- What is cut off before the first occurrence holds none. -/
theorem not_infix_of_firstAt {pat before rest : List Char} (hpat : pat ≠ [])
    (h : FirstAt pat (before ++ pat ++ rest) before.length) : ¬ pat <:+: before := by
  rintro ⟨front, back, rfl⟩
  have hlt : front.length < (front ++ pat ++ back).length := by
    have := List.length_pos_of_ne_nil hpat
    simp only [List.length_append]
    omega
  refine h.first front.length hlt ⟨back ++ pat ++ rest, ?_⟩
  simp only [List.append_assoc, List.drop_left]

/-- What the lexer takes between tokens is a gap. -/
theorem gap_of_lexeme {c : Char} {cs text rest : List Char}
    (h : lexeme c cs = .ok (none, rest)) (htext : c :: cs = text ++ rest) : Gap text rest := by
  generalize htok : (none : Option Tok) = tok? at h
  cases formed_of_lexeme h htext with
  | white hc => exact .white hc
  | lineComment hbody => exact .line hbody
  | @lastComment body hbody =>
    -- the comment takes all of its line, so if no line end belongs to it nothing is left
    obtain ⟨rfl, rfl⟩ : c = '/' ∧ cs = '/' :: (body ++ rest) := by simpa using htext
    rw [lexeme_lineComment] at h
    have hall : (body ++ rest).dropWhile (· != '\n') = rest.dropWhile (· != '\n') :=
      List.dropWhile_append_of_pos fun x hx => by
        simpa using fun heq : x = '\n' => hbody (heq ▸ hx)
    have hrest : (rest.dropWhile (· != '\n')).drop 1 = rest := by
      rw [← hall]
      exact (Prod.mk.inj (Except.ok.inj h)).2
    have hlen := congrArg List.length hrest
    have hle := length_dropWhile_le (· != '\n') rest
    rw [List.length_drop] at hlen
    obtain rfl : rest = [] := List.length_eq_zero_iff.1 (by omega)
    exact .lastLine hbody
  | @blockComment body =>
    obtain ⟨rfl, rfl⟩ : c = '/' ∧ cs = '*' :: (body ++ ['*', '/'] ++ rest) := by
      simpa using htext
    cases hcut : cutAt? ['*', '/'] (body ++ ['*', '/'] ++ rest) with
    | none => exact absurd ⟨body, rest, rfl⟩ (cutAt?_eq_none_iff.1 hcut)
    | some cut =>
      obtain ⟨before, after⟩ := cut
      rw [lexeme_blockComment hcut] at h
      obtain rfl : after = rest := (Prod.mk.inj (Except.ok.inj h)).2
      obtain ⟨heq, hfirst⟩ := cutAt?_eq_some_iff.1 hcut
      obtain rfl : body = before :=
        List.append_cancel_right (List.append_cancel_right heq)
      exact .block (not_infix_of_firstAt (by simp) hfirst)
  | _ => cases htok

/-! ## spans -/

/-- Code is made of gaps and of the texts of its tokens, in order, and each token has the
offset of its text. The first character of the code has the offset `base`. -/
inductive Spans : (base : Nat) → List Char → List Token → Prop where
  | done {base : Nat} : Spans base [] []
  | gap {base : Nat} {text rest : List Char} {ts : List Token} :
    Gap text rest → Spans (base + octets text) rest ts → Spans base (text ++ rest) ts
  | token {base : Nat} {text rest : List Char} {tok : Tok} {ts : List Token} :
    Formed text (some tok) → Spans (base + octets text) rest ts →
    Spans base (text ++ rest) (⟨tok, base⟩ :: ts)

/-- The tokens of lexemes stand where their texts do. -/
theorem Lexed.spans {cs : List Char} {ls : List Lexeme} (h : Lexed cs ls) (base : Nat) :
    Spans base cs (placed base ls) := by
  induction h generalizing base with
  | nil => exact .done
  | @cons c cs text rest tok? ls hlexeme htext hrest ih =>
    rw [htext]
    cases tok? with
    | none => exact .gap (gap_of_lexeme hlexeme htext) (ih _)
    | some tok => exact .token (formed_of_lexeme hlexeme htext) (ih _)

/-- The tokens of code stand where their texts do. -/
theorem spans_of_tokens {base : Nat} {code : String} {ts : List Token}
    (h : tokens base code = .ok ts) : Spans base code.toList ts := by
  obtain ⟨ls, hlexed, rfl⟩ := exists_of_tokens h
  exact hlexed.spans base

theorem octets_pos_of_ne_nil {cs : List Char} (h : cs ≠ []) : 0 < octets cs := by
  cases cs with
  | nil => exact absurd rfl h
  | cons c cs =>
    rw [octets_cons]
    exact Nat.add_pos_left c.utf8Size_pos _

/-- A token has characters. -/
theorem Formed.octets_pos {text : List Char} {tok : Tok} (h : Formed text (some tok)) :
    0 < octets text := by
  refine octets_pos_of_ne_nil ?_
  cases h with
  | integer hwhole hdigits => exact hwhole
  | punct p => cases p <;> decide
  | _ => simp

/-- A token of code stands in it at its offset. -/
theorem Spans.exists_of_mem {base : Nat} {cs : List Char} {ts : List Token} (h : Spans base cs ts)
    {t : Token} (ht : t ∈ ts) : ∃ before text after,
      cs = before ++ text ++ after ∧ Formed text (some t.tok) ∧
        base + octets before = t.offset := by
  induction h with
  | done => cases ht
  | @gap base gap rest ts hgap hrest ih =>
    obtain ⟨before, text, after, rfl, hformed, hoffset⟩ := ih ht
    refine ⟨gap ++ before, text, after, by simp only [List.append_assoc], hformed, ?_⟩
    rw [octets_append, ← Nat.add_assoc, hoffset]
  | @token base first rest tok ts hfirst hrest ih =>
    obtain rfl | ht := List.mem_cons.1 ht
    · exact ⟨[], first, rest, rfl, hfirst, rfl⟩
    · obtain ⟨before, text, after, rfl, hformed, hoffset⟩ := ih ht
      refine ⟨first ++ before, text, after, by simp only [List.append_assoc], hformed, ?_⟩
      rw [octets_append, ← Nat.add_assoc, hoffset]

/-! ## tokens in order -/

/-- The offsets of tokens grow, from `base` on, and stay below `limit`. -/
def Ascending (base limit : Nat) (ts : List Token) : Prop :=
  ts.Pairwise (fun t t' => t.offset < t'.offset) ∧ ∀ t ∈ ts, base ≤ t.offset ∧ t.offset < limit

section
variable {base middle limit : Nat} {ts ts' : List Token}

/-- Tokens further on have greater offsets. -/
theorem Ascending.append (h : Ascending base middle ts) (h' : Ascending middle limit ts')
    (hle : base ≤ middle) (hle' : middle ≤ limit) : Ascending base limit (ts ++ ts') := by
  refine ⟨List.pairwise_append.2 ⟨h.1, h'.1, fun t ht t' ht' => ?_⟩, fun t ht => ?_⟩
  · exact Nat.lt_of_lt_of_le (h.2 t ht).2 (h'.2 t' ht').1
  · obtain ht | ht := List.mem_append.1 ht
    · exact ⟨(h.2 t ht).1, Nat.lt_of_lt_of_le (h.2 t ht).2 hle'⟩
    · exact ⟨Nat.le_trans hle (h'.2 t ht).1, (h'.2 t ht).2⟩

/-- A token in front of what begins later. -/
theorem Ascending.cons {size : Nat} (h : Ascending (base + size) limit ts) (hpos : 0 < size)
    (hle : base + size ≤ limit) (tok : Tok) : Ascending base limit (⟨tok, base⟩ :: ts) := by
  have hfirst : Ascending base (base + size) [⟨tok, base⟩] := by
    refine ⟨List.pairwise_singleton _ _, fun t ht => ?_⟩
    obtain rfl := List.mem_singleton.1 ht
    exact ⟨Nat.le_refl _, Nat.lt_add_of_pos_right hpos⟩
  exact hfirst.append h (Nat.le_add_right _ _) hle

/-- Offsets ascend, within the code. -/
theorem Spans.ascending {cs : List Char} (h : Spans base cs ts) :
    Ascending base (base + octets cs) ts := by
  induction h with
  | done => exact ⟨.nil, fun t ht => by cases ht⟩
  | @gap base text rest ts hgap hrest ih =>
    rw [octets_append, ← Nat.add_assoc]
    exact ⟨ih.1, fun t ht => ⟨Nat.le_trans (Nat.le_add_right _ _) (ih.2 t ht).1, (ih.2 t ht).2⟩⟩
  | @token base text rest tok ts hformed hrest ih =>
    rw [octets_append, ← Nat.add_assoc]
    exact ih.cons hformed.octets_pos (Nat.le_add_right _ _) tok

end

/-! ## tokens of templates -/

/-- The texts of nodes, one after the other. -/
def allText (program : Program) : List Char := program.flatMap fun node => node.source.toList

/-- The code of a script is that of its nodes, one after the other. -/
theorem toList_sourceOf (program : Program) : (sourceOf program).toList = allText program := by
  simp [sourceOf, allText, String.toList_join, List.flatMap_def, Function.comp_def]

theorem octets_allText_concat (front : Program) (node : Node) :
    octets (allText (front ++ [node])) = octets (allText front) + octets node.source.toList := by
  simp [allText, octets_append]

/-- The token `t` of a template begins after `before` in the texts of its nodes: a token of
code where its text begins, the token of an output where the node of that output begins. -/
inductive Stands (program : Program) : (before : List Char) → (t : Token) → Prop where
  | code {front back : Program} {code : String} {before text after : List Char} {tok : Tok} :
    program = front ++ .code code :: back → code.toList = before ++ text ++ after →
    Formed text (some tok) →
    Stands program (allText front ++ before) ⟨tok, octets (allText front ++ before)⟩
  | output {front back : Program} {node : Node} :
    program = front ++ node :: back → node.writes = true →
    Stands program (allText front) ⟨.emit (front.countP Node.writes), octets (allText front)⟩

section
variable {base index : Nat} {program : Program} {ts : List Token} {outputs : List Output}
  {before : List Char} {t : Token}

/-- The offset of a token is the number of octets before it. -/
theorem Stands.octets_eq (h : Stands program before t) : octets before = t.offset := by
  cases h <;> rfl

/-- What stands before a token is a front of the code. -/
theorem Stands.isPrefix (h : Stands program before t) : before <+: (sourceOf program).toList := by
  rw [toList_sourceOf]
  cases h with
  | @code front back code inner text after tok hprogram hcode hformed =>
    refine ⟨text ++ after ++ allText back, ?_⟩
    rw [hprogram]
    simp [allText, Node.source, hcode]
  | @output front back node hprogram hwrites =>
    rw [hprogram]
    simp [allText]

/-- The tokens of nodes of which the first one is an output. -/
theorem exists_stands_of_writes {front rest : Program} {node : Node} (hnode : node.writes = true)
    (hmore : ∀ front',
      octets (allText front') = octets (allText front) + octets node.source.toList →
      front'.countP Node.writes = front.countP Node.writes + 1 → t ∈ ts →
      ∃ before, Stands (front' ++ rest) before t)
    (ht : t ∈ ⟨.emit (front.countP Node.writes), octets (allText front)⟩ :: ts) :
    ∃ before, Stands (front ++ node :: rest) before t := by
  obtain rfl | ht := List.mem_cons.1 ht
  · exact ⟨_, .output rfl hnode⟩
  · have hlater := hmore (front ++ [node]) (octets_allText_concat front node)
      (by simp [hnode]) ht
    rwa [List.append_assoc] at hlater

/-- The nodes of a template hold the texts of its tokens. The nodes in `front` stand before
them. -/
theorem Collected.stands (h : Collected base index program ts outputs) (front : Program)
    (hbase : octets (allText front) = base) (hindex : front.countP Node.writes = index)
    (ht : t ∈ ts) : ∃ before, Stands (front ++ program) before t := by
  induction h generalizing front with
  | nil => cases ht
  | @code base index code rest ts more outputs hts hmore ih =>
    obtain ht | ht := List.mem_append.1 ht
    · obtain ⟨before, text, after, hcode, hformed, hoffset⟩ :=
        (spans_of_tokens hts).exists_of_mem ht
      obtain ⟨tok, offset⟩ := t
      obtain rfl : octets (allText front ++ before) = offset := by
        rw [octets_append, hbase]
        exact hoffset
      exact ⟨_, .code rfl hcode hformed⟩
    · have hlater := ih (front ++ [.code code]) (by rw [octets_allText_concat, hbase]; rfl)
        (by simp [hindex, Node.writes]) ht
      rwa [List.append_assoc] at hlater
  | literal hmore ih =>
    subst hbase hindex
    exact exists_stands_of_writes rfl ih ht
  | value htree hmore ih =>
    subst hbase hindex
    exact exists_stands_of_writes rfl ih ht

/-- An expression has characters. -/
theorem octets_pos_of_parseValue {expr : String} {tree : Expr} (h : parseValue expr = .ok tree) :
    0 < octets expr.toList := by
  refine octets_pos_of_ne_nil fun hnil => ?_
  obtain rfl : expr = "" := String.toList_inj.1 hnil
  obtain ⟨ls, hlexed, hreads⟩ := parseValue_eq_ok_iff.1 h
  cases hlexed
  obtain ⟨hlt, -⟩ := exists_of_reads_expression hreads
  exact absurd hlt (Nat.lt_irrefl _)

/-- The tokens of a template stand one after the other, if no text among its nodes is
empty. -/
theorem Collected.ascending (h : Collected base index program ts outputs)
    (htexts : .literal "" ∉ program) : Ascending base (base + extent program) ts := by
  induction h with
  | nil => exact ⟨.nil, fun t ht => by cases ht⟩
  | @code base index code rest ts more outputs hts hmore ih =>
    have hmore := ih fun hmem => htexts (List.mem_cons_of_mem _ hmem)
    rw [extent, ← Nat.add_assoc]
    exact (spans_of_tokens hts).ascending.append hmore (Nat.le_add_right _ _) (Nat.le_add_right _ _)
  | @literal base index text rest more outputs hmore ih =>
    have hmore := ih fun hmem => htexts (List.mem_cons_of_mem _ hmem)
    have hpos : 0 < octets text.toList := octets_pos_of_ne_nil fun hnil => by
      obtain rfl : text = "" := String.toList_inj.1 hnil
      exact htexts (List.mem_cons_self ..)
    rw [extent, ← Nat.add_assoc]
    exact hmore.cons hpos (Nat.le_add_right _ _) _
  | @value base index expr escape trim tree rest more outputs htree hmore ih =>
    have hmore := ih fun hmem => htexts (List.mem_cons_of_mem _ hmem)
    have hpos := octets_pos_of_parseValue htree
    rw [extent, ← Nat.add_assoc]
    exact hmore.cons hpos (Nat.le_add_right _ _) _

end

/-! ## what an error shows -/

section
variable {d : Delimiters} {source : String} {program : Program}

/-- The scan makes no empty texts. -/
theorem not_mem_of_build? (h : Program.build? d source = some program) :
    .literal "" ∉ program := by
  unfold Program.build? at h
  dsimp only at h
  split at h
  · obtain rfl := Option.some.inj h
    intro hmem
    obtain ⟨segment, hsegment, heq⟩ := List.mem_map.1 hmem
    cases segment with
    | text t =>
      obtain rfl : t = "" := by simpa [Node.ofSegment] using heq
      exact (Scan.scanned_segments d source).nonempty hsegment
    | marker m =>
      have hmarker := Scan.isMarker_ofMarker m
      rw [Node.ofSegment] at heq
      rw [heq] at hmarker
      cases hmarker
  · cases h

/-- An error at a token shows what stands before the token. -/
theorem toError_of_isPrefix {code : String} {before : List Char} {t : Token}
    (h : before <+: code.toList) (ht : octets before = t.offset) (cause : SyntaxCause)
    (rest : List Token) :
    (ParseError.mk cause (t :: rest)).toError code = .malformedAfter cause before := by
  have hle : t.offset ≤ octets code.toList := by
    obtain ⟨back, hback⟩ := h
    rw [← ht, ← hback, octets_append]
    exact Nat.le_add_right _ _
  have htake : takeOctets? t.offset code.toList = some before := takeOctets?_eq_some_iff.2 ⟨ht, h⟩
  simp only [ParseError.toError, List.head?_cons, Option.map_some, Option.getD_some,
    Nat.min_eq_left hle, htake]

/-- An error after all tokens shows all of the code. -/
theorem toError_of_end (code : String) (cause : SyntaxCause) :
    (ParseError.mk cause []).toError code = .malformedAfter cause code.toList := by
  have htake : takeOctets? (octets code.toList) code.toList = some code.toList :=
    takeOctets?_eq_some_iff.2 ⟨rfl, List.prefix_refl _⟩
  simp only [ParseError.toError, List.head?_nil, Option.map_none, Option.getD_none, Nat.min_self,
    htake, Option.getD_some]

/-- Nothing but tokens of the list is left where a mistake is found. -/
theorem exists_of_statements_error {ts : List Token} {err : ParseError}
    (h : statements ts = .error err) : ∃ front, ts = front ++ err.rest := by
  obtain ⟨front, hstopped, -⟩ := stuck_of_statements h
  obtain rfl | ⟨-, before, o, t, -, -, rfl⟩ := hstopped
  · exact ⟨front, rfl⟩
  · exact ⟨front ++ [t], by simp⟩

/-- The place that an error shows is the beginning of a token, or the end of all code. -/
def ShownAt (program : Program) (before : List Char) (rest : List Token) : Prop :=
  (∃ t more, rest = t :: more ∧ Stands program before t) ∨
    rest = [] ∧ before = (sourceOf program).toList

/-- **Token offsets are true.** Accepted code is made of its tokens, each at its offset, and
of white space and whole comments between them. The tokens of a template, with those of its
outputs, have growing offsets, and each of them stands where its offset says in the texts of
all nodes put together, between two characters. So a mistake that the parser finds is
reported with just what stands before the token at the place of the mistake. -/
theorem offsets_true :
    (∀ base code ts, tokens base code = .ok ts → Spans base code.toList ts) ∧
    ∀ d source program ts outputs, Program.build? d source = some program →
      collect 0 0 program = .ok (ts, outputs) →
      ts.Pairwise (fun t t' => t.offset < t'.offset) ∧
      (∀ t ∈ ts, IsBoundary (sourceOf program) t.offset ∧ ∃ before, Stands program before t) ∧
      ∀ err, statements ts = .error err → ∃ before, ShownAt program before err.rest ∧
        ofProgram program = .error (.malformedAfter err.cause before) := by
  refine ⟨fun base code ts h => spans_of_tokens h, ?_⟩
  intro d source program ts outputs hbuild hcollect
  have hcollected := collect_eq_ok_iff.1 hcollect
  have hstands : ∀ t ∈ ts, ∃ before, Stands program before t :=
    fun t ht => hcollected.stands [] rfl rfl ht
  refine ⟨(hcollected.ascending (not_mem_of_build? hbuild)).1, fun t ht => ?_, fun err herr => ?_⟩
  · obtain ⟨before, hbefore⟩ := hstands t ht
    exact ⟨⟨before, hbefore.isPrefix, hbefore.octets_eq⟩, before, hbefore⟩
  · have hprogram : ofProgram program = .error (err.toError (sourceOf program)) := by
      rw [ofProgram, hcollect, Except.ok_bind]
      dsimp only
      rw [herr]
    rw [hprogram]
    obtain ⟨front, rfl⟩ := exists_of_statements_error herr
    obtain ⟨cause, rest⟩ := err
    cases rest with
    | nil => exact ⟨_, .inr ⟨rfl, rfl⟩, congrArg _ (toError_of_end _ cause)⟩
    | cons t more =>
      obtain ⟨before, hbefore⟩ := hstands t (by simp)
      exact ⟨before, .inl ⟨t, more, rfl, hbefore⟩,
        congrArg _ (toError_of_isPrefix hbefore.isPrefix hbefore.octets_eq cause more)⟩

/-- A comment and texts of characters of two octets, and a parenthesis that nothing opens. -/
theorem offsets_true_comment :
    Program.build? (.ofTexts "«" "»") "ß«if (x) /* é */»ü«; )»" =
        some [.literal "ß", .code "if (x) /* é */", .literal "ü", .code "; )"] ∧
      Spans 2 "if (x) /* é */".toList [⟨.ident "if", 2⟩, ⟨.punct .lparen, 5⟩, ⟨.ident "x", 6⟩,
        ⟨.punct .rparen, 7⟩] ∧
      IsBoundary "ßif (x) /* é */ü; )" 21 ∧
      ∃ before, ShownAt [.literal "ß", .code "if (x) /* é */", .literal "ü", .code "; )"] before
          [⟨.punct .rparen, 21⟩] ∧
        ofProgram [.literal "ß", .code "if (x) /* é */", .literal "ü", .code "; )"] =
          .error (.malformedAfter .unexpectedToken before) := by
  have hbuild : Program.build? (.ofTexts "«" "»") "ß«if (x) /* é */»ü«; )»" =
      some [.literal "ß", .code "if (x) /* é */", .literal "ü", .code "; )"] := by
    decide +kernel
  have htokens : tokens 2 "if (x) /* é */" = .ok [⟨.ident "if", 2⟩, ⟨.punct .lparen, 5⟩,
      ⟨.ident "x", 6⟩, ⟨.punct .rparen, 7⟩] := by decide +kernel
  have htokens' : tokens 19 "; )" = .ok [⟨.punct .semicolon, 19⟩, ⟨.punct .rparen, 21⟩] := by
    decide +kernel
  have hcollect : collect 0 0 [.literal "ß", .code "if (x) /* é */", .literal "ü", .code "; )"] =
      .ok ([⟨.emit 0, 0⟩, ⟨.ident "if", 2⟩, ⟨.punct .lparen, 5⟩, ⟨.ident "x", 6⟩,
        ⟨.punct .rparen, 7⟩, ⟨.emit 1, 17⟩, ⟨.punct .semicolon, 19⟩, ⟨.punct .rparen, 21⟩],
        [.text "ß", .text "ü"]) :=
    collect_eq_ok_iff.2 (.literal (.code htokens (.literal (.code htokens' .nil))))
  have hstatements : statements [⟨.emit 0, 0⟩, ⟨.ident "if", 2⟩, ⟨.punct .lparen, 5⟩,
      ⟨.ident "x", 6⟩, ⟨.punct .rparen, 7⟩, ⟨.emit 1, 17⟩, ⟨.punct .semicolon, 19⟩,
      ⟨.punct .rparen, 21⟩] = .error ⟨.unexpectedToken, [⟨.punct .rparen, 21⟩]⟩ := by cbv
  obtain ⟨hspans, htemplates⟩ := offsets_true
  obtain ⟨-, hboundaries, herrors⟩ := htemplates _ _ _ _ _ hbuild hcollect
  exact ⟨hbuild, hspans _ _ _ htokens, (hboundaries ⟨.punct .rparen, 21⟩ (by simp)).1,
    herrors _ hstatements⟩

end

end Stencil.Script
