import Stencil.Proofs.Codegen.Numbers
import Stencil.Proofs.Codegen.Strings

/-!
# Stencil.Proofs.Codegen.Lexemes

What code begins with in front of a character that goes on with no token. A literal is read
up to its own end (`afterLiteral?_append`), and where there is none, none is made by what
follows, as long as no comment begins. `Lexeme` says what code begins with if it is no
comment (`lexeme?_eq_some_iff`), and that this is the same in front of such a character
(`Lexeme.append`).
-/

namespace Stencil.Codegen

open Text Unicode

/-! ## literals -/

/-- The characters other than digits that literals begin with. -/
def literalFronts : List Char := ['"', 'r', 'b', 'c', '\'', '(']

/-- A literal that begins with no quote or letter is a number. -/
theorem afterLiteral?_of_not_mem {c : Char} (h : c ∉ literalFronts) (cs : List Char) :
    afterLiteral? (c :: cs) = if c.isDigit then afterNumber? (c :: cs) else none := by
  simp only [literalFronts, List.mem_cons, List.not_mem_nil, or_false, not_or] at h
  obtain ⟨hquote, hr, hb, hc, hapostrophe, hround⟩ := h
  simp [afterLiteral?, hb, hc]

section
variable {x : Char} (hx : Divides x)
include hx

/-- A character in quotes ends at its quote. -/
theorem afterQuotedChar?_append {kind : StringKind} {cs rest : List Char}
    (h : afterQuotedChar? kind cs = some rest) (more : List Char) :
    afterQuotedChar? kind (cs ++ x :: more) = some (rest ++ x :: more) := by
  unfold afterQuotedChar? at h
  dsimp only at h
  split at h
  · next after hafter =>
    obtain rfl := Option.some.inj h
    rw [← afterSuffix_append hx]
    split at hafter
    · next front =>
      obtain ⟨⟨c, n⟩, hescape, hdrop⟩ := Option.map_eq_some_iff.1 hafter
      obtain ⟨hescape', hle⟩ := escape?_append hescape (x :: more)
      simp only [afterQuotedChar?, List.cons_append, hescape', Option.map_some,
        List.drop_append_of_le_length hle, hdrop]
    · next c front hslash =>
      split at hafter
      · next hadmits =>
        obtain rfl := Option.some.inj hafter
        simp [afterQuotedChar?, hadmits]
      · cases hafter
    · cases hafter
  · cases h

/-- A literal that is read is read with more code behind it, too. -/
theorem afterLiteral?_append {cs rest : List Char} (h : afterLiteral? cs = some rest)
    (more : List Char) : afterLiteral? (cs ++ x :: more) = some (rest ++ x :: more) := by
  have hstring : ∀ {read read' : Option (List Char × List Char)},
      (∀ {value after}, read = some (value, after) → read' = some (value, after ++ x :: more)) →
      read.map (fun read => afterSuffix read.2) = some rest →
      read'.map (fun read => afterSuffix read.2) = some (rest ++ x :: more) := by
    intro read read' hread h
    obtain ⟨⟨value, after⟩, hsome, rfl⟩ := Option.map_eq_some_iff.1 h
    rw [hread hsome, Option.map_some]
    exact congrArg some (afterSuffix_append hx after more)
  unfold afterLiteral? at h
  dsimp only at h
  split at h
  · exact hstring (readCooked?_append · _) h
  · exact hstring (readRaw?_append · _) h
  · exact hstring (readCooked?_append · _) h
  · exact hstring (readRaw?_append · _) h
  · exact hstring (readCooked?_append · _) h
  · exact hstring (readRaw?_append · _) h
  · exact afterQuotedChar?_append hx h more
  · exact afterQuotedChar?_append hx h more
  · next front =>
    rw [eq_append_of_afterPrefix? h, List.append_assoc]
    exact afterPrefix?_append _ _
  · next c front _ _ _ _ _ _ _ _ _ =>
    split at h
    · next hdigit =>
      have hfront : c ∉ literalFronts := by
        have hnone : ∀ d ∈ literalFronts, d.isDigit = false := forall_mem_of_all (by decide)
        intro hmem
        rw [hnone c hmem] at hdigit
        cases hdigit
      rw [List.cons_append, afterLiteral?_of_not_mem hfront, if_pos hdigit, ← List.cons_append,
        afterNumber?_append hx, h, Option.map_some]
    · cases h
  · cases h

/-- Any other character begins a literal only if it begins a number. -/
theorem afterLiteral?_append_eq {c : Char} (hc : c ∉ literalFronts) (cs more : List Char) :
    afterLiteral? (c :: cs ++ x :: more) = (afterLiteral? (c :: cs)).map (· ++ x :: more) := by
  rw [List.cons_append, afterLiteral?_of_not_mem hc, afterLiteral?_of_not_mem hc,
    ← List.cons_append, afterNumber?_append hx]
  split <;> rfl

end

/-! ## lexemes -/

/-- The first two characters tell whether a comment begins. -/
theorem startsComment_cons_cons (c d : Char) (cs : List Char) :
    startsComment (c :: d :: cs) = (c == '/' && (d == '/' || d == '*')) := by
  unfold startsComment
  split
  · rename_i h
    obtain ⟨rfl, rfl, rfl⟩ : c = '/' ∧ d = '/' ∧ cs = _ := by simpa using h
    rfl
  · rename_i h
    obtain ⟨rfl, rfl, rfl⟩ : c = '/' ∧ d = '*' ∧ cs = _ := by simpa using h
    rfl
  · rename_i hline hblock
    cases hc : c == '/' <;> simp_all

section
variable {x : Char} (hx : Divides x)
include hx

/-- No comment begins across the end of code. -/
theorem startsComment_append (cs more : List Char) :
    startsComment (cs ++ x :: more) = startsComment cs := by
  have hslash := hx.ne_of_isMark (m := '/') (by decide)
  have hstar := hx.ne_of_isMark (m := '*') (by decide)
  match cs with
  | [] => simp [startsComment, hslash]
  | [c] => simp [startsComment, hslash, hstar]
  | c :: d :: cs => rw [List.cons_append, List.cons_append, startsComment_cons_cons,
      startsComment_cons_cons]

/-- No mark is joined to the character behind the code. -/
theorem joinsMark_append (cs more : List Char) : joinsMark (cs ++ x :: more) = joinsMark cs := by
  rw [joinsMark, joinsMark, startsComment_append hx]
  cases cs with
  | nil => simp [hx.mark]
  | cons c cs => rfl

/-- So the mark is the same with more code behind it. -/
theorem mark?_append (c : Char) (cs more : List Char) : mark? c (cs ++ x :: more) = mark? c cs := by
  have hapostrophe := hx.ne_of_isMark (m := '\'') (by decide)
  have hsign := hx.ne_of_isMark (m := '#') (by decide)
  have hr := hx.ne_of_isXidContinue (c := 'r') (by decide)
  unfold mark?
  rw [joinsMark_append hx, afterWord?_append hx]
  split
  · rfl
  split
  · cases afterWord? cs with
    | none => rfl
    | some after =>
      have hmem : x ∉ ['r', '#'] := by simp [hr, hsign]
      have hhead : ∀ m, x ≠ m →
          ((after ++ x :: more).head? == some m) = (after.head? == some m) := by
        intro m hm
        cases after with
        | nil => simp [hm]
        | cons c after => rfl
      dsimp only [Option.map_some]
      rw [hhead _ hapostrophe, hhead _ hsign, afterPrefix?_append_cons hmem, Option.isNone_map]
  · rfl

end

/-- What `c :: cs` begins with if it is no comment, and what follows. -/
inductive Lexeme (c : Char) (cs : List Char) : List Token → List Char → Prop where
  | gap : isGap c = true → Lexeme c cs [] cs
  | literal {rest : List Char} : isGap c = false → afterLiteral? (c :: cs) = some rest →
    Lexeme c cs [.literal (String.ofList (before (c :: cs) rest))] rest
  | bracket {token : Token} : isGap c = false → afterLiteral? (c :: cs) = none →
    bracket? c = some token → Lexeme c cs [token] cs
  | mark {token : Token} : isGap c = false → afterLiteral? (c :: cs) = none → bracket? c = none →
    mark? c cs = some token → Lexeme c cs [token] cs
  | word {rest : List Char} : isGap c = false → afterLiteral? (c :: cs) = none →
    bracket? c = none → mark? c cs = none →
    (∀ sign ∈ literalSigns, ¬ sign.toList <+: c :: cs) → afterWord? (c :: cs) = some rest →
    Lexeme c cs [.word (String.ofList (before (c :: cs) rest))] rest

/-- No sign of a literal is found just if none is in front. -/
theorem any_literalSigns {cs : List Char} :
    (literalSigns.any fun sign => (afterPrefix? sign.toList cs).isSome) = false ↔
      ∀ sign ∈ literalSigns, ¬ sign.toList <+: cs := by
  simp only [List.any_eq_false, Bool.not_eq_true, Option.isSome_eq_false_iff,
    Option.isNone_iff_eq_none, afterPrefix?_eq_none_iff]

/-- What is read of code that is no comment is its lexeme. -/
theorem lexeme?_eq_some_iff {c : Char} {cs rest : List Char} {ts : List Token}
    (hcomment : startsComment (c :: cs) = false) :
    lexeme? c cs = some (ts, rest) ↔ Lexeme c cs ts rest := by
  unfold lexeme?
  dsimp only
  rw [hcomment]
  constructor
  · intro h
    split at h
    · next hgap =>
      obtain ⟨rfl, rfl⟩ := Prod.mk.inj (Option.some.inj h)
      exact .gap hgap
    next hgap =>
    have hgap := eq_false_of_ne_true hgap
    rw [if_neg Bool.false_ne_true] at h
    split at h
    · next after hliteral =>
      obtain ⟨rfl, rfl⟩ := Prod.mk.inj (Option.some.inj h)
      exact .literal hgap hliteral
    next hliteral =>
    split at h
    · next token hbracket =>
      obtain ⟨rfl, rfl⟩ := Prod.mk.inj (Option.some.inj h)
      exact .bracket hgap hliteral hbracket
    next hbracket =>
    split at h
    · next token hmark =>
      obtain ⟨rfl, rfl⟩ := Prod.mk.inj (Option.some.inj h)
      exact .mark hgap hliteral hbracket hmark
    next hmark =>
    split at h
    · cases h
    next hsigns =>
    obtain ⟨after, hword, heq⟩ := Option.map_eq_some_iff.1 h
    obtain ⟨rfl, rfl⟩ := Prod.mk.inj heq
    exact .word hgap hliteral hbracket hmark (any_literalSigns.1 (eq_false_of_ne_true hsigns)) hword
  · intro h
    cases h with
    | gap hgap => rw [if_pos hgap]
    | literal hgap hliteral => simp [hgap, hliteral]
    | bracket hgap hliteral hbracket => simp [hgap, hliteral, hbracket]
    | mark hgap hliteral hbracket hmark => simp [hgap, hliteral, hbracket, hmark]
    | word hgap hliteral hbracket hmark hsigns hword =>
      simp only [hgap, hliteral, hbracket, hmark, any_literalSigns.2 hsigns, hword]
      rfl

/-- A string without escapes begins with a quote or with number signs. -/
theorem isPrefix_of_readRaw? {kind : StringKind} {cs : List Char} {read : List Char × List Char}
    (h : readRaw? kind cs = some read) :
    ['"'] <+: cs ∨ ['#', '"'] <+: cs ∨ ['#', '#'] <+: cs := by
  match cs with
  | [] => simp [readRaw?] at h
  | c :: cs =>
    by_cases hquote : c = '"'
    · exact .inl (by simp [hquote])
    by_cases hsign : c = '#'
    · subst hsign
      cases cs with
      | nil => simp [readRaw?] at h
      | cons d cs =>
        by_cases hd : d = '"'
        · exact .inr (.inl (by simp [hd]))
        by_cases hd' : d = '#'
        · exact .inr (.inr (by simp [hd']))
        · simp [readRaw?, hd, hd'] at h
    · simp [readRaw?, hquote, hsign] at h

/-- A literal that begins like a word begins with one of the signs. -/
theorem exists_sign {c : Char} {cs rest : List Char} (hc : c ∈ ['r', 'b', 'c'])
    (h : afterLiteral? (c :: cs) = some rest) : ∃ sign ∈ literalSigns, sign.toList <+: c :: cs := by
  have hraw : ∀ {kind : StringKind} {cs : List Char},
      (readRaw? kind cs).map (fun read => afterSuffix read.2) = some rest →
      ['"'] <+: cs ∨ ['#', '"'] <+: cs ∨ ['#', '#'] <+: cs := by
    intro kind cs h
    obtain ⟨read, hread, -⟩ := Option.map_eq_some_iff.1 h
    exact isPrefix_of_readRaw? hread
  generalize hcs : c :: cs = all at h ⊢
  have hfront : all.head? ∈ ['r', 'b', 'c'].map some := by
    rw [← hcs]
    exact List.mem_map_of_mem hc
  unfold afterLiteral? at h
  dsimp only at h
  split at h
  · exact absurd hfront (by simp)
  · rcases hraw h with ⟨tail, rfl⟩ | ⟨tail, rfl⟩ | ⟨tail, rfl⟩
    · exact ⟨"r\"", by decide, tail, rfl⟩
    · exact ⟨"r#\"", by decide, tail, rfl⟩
    · exact ⟨"r##", by decide, tail, rfl⟩
  · next front => exact ⟨"b\"", by decide, front, rfl⟩
  · rcases hraw h with ⟨tail, rfl⟩ | ⟨tail, rfl⟩ | ⟨tail, rfl⟩
    · exact ⟨"br\"", by decide, tail, rfl⟩
    · exact ⟨"br#", by decide, '"' :: tail, rfl⟩
    · exact ⟨"br#", by decide, '#' :: tail, rfl⟩
  · next front => exact ⟨"c\"", by decide, front, rfl⟩
  · rcases hraw h with ⟨tail, rfl⟩ | ⟨tail, rfl⟩ | ⟨tail, rfl⟩
    · exact ⟨"cr\"", by decide, tail, rfl⟩
    · exact ⟨"cr#", by decide, '"' :: tail, rfl⟩
    · exact ⟨"cr#", by decide, '#' :: tail, rfl⟩
  · next front => exact ⟨"b'", by decide, front, rfl⟩
  · exact absurd hfront (by simp)
  · exact absurd hfront (by simp)
  · next d front _ _ _ _ _ _ _ _ _ =>
    have hnone : ∀ d ∈ ['r', 'b', 'c'], d.isDigit = false := forall_mem_of_all (by decide)
    obtain ⟨rfl, rfl⟩ := List.cons.inj hcs
    rw [hnone c hc] at h
    cases h
  · cases h

/-- A bracket other than the opening round one begins no literal. -/
theorem not_mem_literalFronts_of_bracket? {c : Char} {token : Token} (h : bracket? c = some token)
    (hround : c ≠ '(') : c ∉ literalFronts := by
  unfold bracket? at h
  split at h
  · exact absurd rfl hround
  all_goals first | decide | cases h

/-- A mark other than the apostrophe begins no literal. -/
theorem not_mem_literalFronts_of_isMark {c : Char} (h : isMark c = true) (hc : c ≠ '\'') :
    c ∉ literalFronts := by
  have hfixed : ∀ d ∈ "~!@#$%^&*-=+|;:,<.>/?'".toList, d ∉ literalFronts ∨ d = '\'' :=
    forall_mem_of_all (by decide)
  exact (hfixed c (by simpa [isMark] using h)).resolve_right hc

/-- The literal that stands for one that could not be made has a comment in it. -/
theorem afterLiteral?_opening {cs : List Char} (h : startsComment cs = false) :
    afterLiteral? ('(' :: cs) = none := by
  refine afterPrefix?_eq_none_iff.2 fun hprefix => ?_
  obtain ⟨tail, rfl⟩ : ['/', '*'] <+: cs :=
    (List.prefix_append ['/', '*'] "ERROR*/)".toList).trans (List.cons_prefix_cons.1 hprefix).2
  cases h

/-- Without an escape a character in quotes is one character and a quote. -/
theorem afterQuotedChar?_eq_none_iff {c : Char} {cs : List Char} (hc : c ≠ '\\') :
    afterQuotedChar? .text (c :: cs) = none ↔ cs.head? ≠ some '\'' := by
  cases cs with
  | nil => simp [afterQuotedChar?, StringKind.admits]
  | cons d cs =>
    by_cases hd : d = '\''
    · simp [afterQuotedChar?, StringKind.admits, hd]
    · simp [afterQuotedChar?, StringKind.admits, hd]

section
variable {x : Char} (hx : Divides x)
include hx

/-- No sign of a literal has a character in it that goes on with no token. -/
theorem not_mem_literalSign {sign : String} (h : sign ∈ literalSigns) : x ∉ sign.toList := by
  have hfixed : ∀ d ∈ literalSigns.flatMap String.toList,
      d = '"' ∨ isXidContinue d = true ∨ isMark d = true := forall_mem_of_all (by decide +kernel)
  intro hmem
  rcases hfixed x (List.mem_flatMap.2 ⟨sign, h, hmem⟩) with hquote | hpart | hmark
  · exact hx.quote hquote
  · exact hx.ne_of_isXidContinue hpart rfl
  · exact hx.ne_of_isMark hmark rfl

section
variable {c : Char} {cs : List Char} (hliteral : afterLiteral? (c :: cs) = none) (more : List Char)
include hliteral

/-- A bracket is no literal, whatever code comes behind. -/
theorem afterLiteral?_append_of_bracket? {token : Token} (hbracket : bracket? c = some token)
    (hcomment : startsComment cs = false) : afterLiteral? (c :: (cs ++ x :: more)) = none := by
  by_cases hround : c = '('
  · subst hround
    exact afterLiteral?_opening (by rw [startsComment_append hx, hcomment])
  · rw [← List.cons_append, afterLiteral?_append_eq hx
      (not_mem_literalFronts_of_bracket? hbracket hround), hliteral]
    rfl

/-- A mark is none either. -/
theorem afterLiteral?_append_of_mark? {token : Token} (hmark : mark? c cs = some token) :
    afterLiteral? (c :: (cs ++ x :: more)) = none := by
  by_cases happostrophe : c = '\''
  · subst happostrophe
    -- A lifetime: no apostrophe follows the first character of its name.
    obtain ⟨after, hword⟩ : ∃ after, afterWord? cs = some after := by
      cases hword : afterWord? cs with
      | none => simp [mark?, hword] at hmark
      | some after => exact ⟨after, rfl⟩
    cases cs with
    | nil => cases hword
    | cons d tail =>
      have hslash : d ≠ '\\' := by
        rintro rfl
        exact absurd (isWordStart_of_afterWord? hword) (by decide)
      have halone := (afterQuotedChar?_eq_none_iff hslash).1 hliteral
      refine (afterQuotedChar?_eq_none_iff hslash).2 ?_
      cases tail with
      | nil => simpa using hx.ne_of_isMark (m := '\'') (by decide)
      | cons e tail => exact halone
  · have hmarked : isMark c = true := by
      refine Bool.of_not_eq_false fun hno => ?_
      simp [mark?, hno] at hmark
    rw [← List.cons_append, afterLiteral?_append_eq hx
      (not_mem_literalFronts_of_isMark hmarked happostrophe), hliteral]
    rfl

/-- A word without the sign of a literal is none either. -/
theorem afterLiteral?_append_of_afterWord? {rest : List Char}
    (hword : afterWord? (c :: cs) = some rest)
    (hsigns : ∀ sign ∈ literalSigns, ¬ sign.toList <+: c :: (cs ++ x :: more)) :
    afterLiteral? (c :: (cs ++ x :: more)) = none := by
  by_cases hletter : c ∈ ['r', 'b', 'c']
  · refine Option.eq_none_iff_forall_ne_some.2 fun after hsome => ?_
    obtain ⟨sign, hsign, hprefix⟩ := exists_sign hletter hsome
    exact hsigns sign hsign hprefix
  · have hfixed : ∀ d ∈ literalFronts, d ∈ ['r', 'b', 'c'] ∨ isWordStart d = false :=
      forall_mem_of_all (by decide)
    have hfront : c ∉ literalFronts := by
      intro hmem
      have hstart := isWordStart_of_afterWord? hword
      rw [(hfixed c hmem).resolve_left hletter] at hstart
      cases hstart
    rw [← List.cons_append, afterLiteral?_append_eq hx hfront, hliteral]
    rfl

end

/-- What begins here goes on with no bracket. If a comment began behind an opening bracket,
the two could be the literal of an error. -/
theorem Lexeme.append {c : Char} {cs rest : List Char} {ts : List Token} (h : Lexeme c cs ts rest)
    (hnext : startsComment (cs.drop (cs.length - rest.length)) = false) (more : List Char) :
    Lexeme c (cs ++ x :: more) ts (rest ++ x :: more) := by
  cases h with
  | gap hgap => exact .gap hgap
  | literal hgap hliteral =>
    rw [← before_append _ _ (x :: more)]
    exact .literal hgap (afterLiteral?_append hx hliteral more)
  | bracket hgap hliteral hbracket =>
    rw [Nat.sub_self, List.drop_zero] at hnext
    exact .bracket hgap (afterLiteral?_append_of_bracket? hx hliteral more hbracket hnext) hbracket
  | mark hgap hliteral hbracket hmark =>
    exact .mark hgap (afterLiteral?_append_of_mark? hx hliteral more hmark) hbracket
      (by rw [mark?_append hx, hmark])
  | word hgap hliteral hbracket hmark hsigns hword =>
    have hword' := afterWord?_append hx (c :: cs) more
    rw [hword, Option.map_some] at hword'
    have hsigns' : ∀ sign ∈ literalSigns, ¬ sign.toList <+: c :: (cs ++ x :: more) := by
      intro sign hsign
      rw [← List.cons_append, isPrefix_append_cons_iff (not_mem_literalSign hx hsign)]
      exact hsigns sign hsign
    rw [← before_append _ _ (x :: more)]
    exact .word hgap (afterLiteral?_append_of_afterWord? hx hliteral more hword hsigns') hbracket
      (by rw [mark?_append hx, hmark]) hsigns' hword'

end

end Stencil.Codegen
