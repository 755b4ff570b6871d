import Stencil.Proofs.Script.Lexemes

/-!
# Stencil.Proofs.Script.Joining

Code that is put together of pieces.

* Characters like the closing parenthesis go on with no lexeme (`Divides`), so code
  in front of one has the lexemes that it has alone, unless it has a comment
  (`Lexed.append`).
* A word ends at the first character that cannot belong to it (`lexed_word`), and
  brackets, commas, spaces and strings end where they are written to
  (`lexed_mark`, `lexed_space`, `lexed_quoted`).
-/

namespace Stencil.Script

open Text Unicode

/-! ## lexemes in front of a character that goes on with none -/

/-- A character that begins no comment and goes on with no name, number or mark. -/
structure Divides (x : Char) : Prop where
  part : isIdentPart x = false
  digit : x.isDigit = false
  point : x ≠ '.'
  slash : x ≠ '/'
  star : x ≠ '*'
  mark : ∀ p : Punct, x ∉ p.spelling.toList.tail

/-- A closing parenthesis goes on with no lexeme. -/
theorem divides_rparen : Divides ')' where
  part := by decide
  digit := by decide
  point := by decide
  slash := by decide
  star := by decide
  mark p := by cases p <;> decide

section
variable {x : Char}

/-- A number ends in front of such a character. -/
theorem readNumber_append (hx : Divides x) (c : Char) (cs more : List Char) :
    readNumber c (cs ++ x :: more) =
      ((readNumber c cs).1, (readNumber c cs).2 ++ x :: more) := by
  have hdigit : x.isDigit = false := hx.digit
  unfold readNumber spanDigits
  dsimp only
  rw [takeWhile_append_cons hdigit, dropWhile_append_cons hdigit]
  generalize cs.takeWhile Char.isDigit = whole
  generalize cs.dropWhile Char.isDigit = rest
  cases rest with
  | nil =>
    rw [List.nil_append]
    split
    · next heq => exact absurd (List.cons.inj heq).1 hx.point
    · rfl
  | cons d ds =>
    by_cases hpoint : d = '.'
    · subst hpoint
      cases ds with
      | nil => simp [hx.digit]
      | cons d ds =>
        simp only [List.cons_append]
        rw [takeWhile_append_cons hdigit, dropWhile_append_cons hdigit]
        split <;> rfl
    · split
      · next heq => exact absurd (List.cons.inj heq).1 hpoint
      · split
        · next heq => exact absurd (List.cons.inj heq).1 hpoint
        · rfl

/-- A mark has such a character at most in front. -/
theorem afterPrefix?_append_divides (hx : Divides x) (p : Punct) (c : Char) (cs more : List Char) :
    afterPrefix? p.spelling.toList (c :: cs ++ x :: more) =
      (afterPrefix? p.spelling.toList (c :: cs)).map (· ++ x :: more) := by
  have htail := hx.mark p
  cases hspelling : p.spelling.toList with
  | nil => rfl
  | cons d ds =>
    rw [hspelling, List.tail_cons] at htail
    rw [List.cons_append, afterPrefix?, afterPrefix?, afterPrefix?_append_cons htail]
    split <;> rfl

/-- A punctuation mark stops where the code stops. -/
theorem readPunct?_append (hx : Divides x) (c : Char) (cs more : List Char) :
    readPunct? (c :: cs ++ x :: more) =
      (readPunct? (c :: cs)).map fun read => (read.1, read.2 ++ x :: more) := by
  rw [readPunct?, readPunct?, List.map_findSome?]
  congr 1
  funext p
  rw [afterPrefix?_append_divides hx, Function.comp, Option.map_map, Option.map_map]
  rfl

/-- What stands between tokens is white space or a comment. -/
theorem Formed.white_or_comment {text : List Char} (h : Formed text none) :
    (∃ c, text = [c] ∧ isWhiteSpace c = true) ∨ IsComment text := by
  cases h with
  | white hc => exact .inl ⟨_, rfl, hc⟩
  | lineComment hbody => exact .inr (.inl ⟨_, rfl⟩)
  | lastComment hbody => exact .inr (.inl ⟨_, rfl⟩)
  | blockComment => exact .inr (.inr ⟨_, rfl⟩)

/-- A lexeme that is no comment is the same in front of such a character. -/
theorem lexeme_append (hx : Divides x) {c : Char} {cs text rest : List Char} {tok? : Option Tok}
    (h : lexeme c cs = .ok (tok?, rest)) (htext : c :: cs = text ++ rest)
    (hcomment : ¬ IsComment text) (more : List Char) :
    lexeme c (cs ++ x :: more) = .ok (tok?, rest ++ x :: more) := by
  have hformed := formed_of_lexeme h htext
  have hwhite : tok? = none → isWhiteSpace c = true := by
    rintro rfl
    obtain ⟨d, rfl, hd⟩ | hbad := hformed.white_or_comment
    · obtain rfl : c = d := (List.cons.inj htext).1
      exact hd
    · exact absurd hbad hcomment
  unfold lexeme at h ⊢
  split at h
  · next hc =>
    obtain ⟨rfl, rfl⟩ : none = tok? ∧ cs = rest := by simpa using h
    rw [if_pos hc]
  next hc =>
  rw [if_neg hc]
  split at h
  · exact absurd (hwhite (congrArg Prod.fst (Except.ok.inj h)).symm) hc
  next hline =>
  split at h
  · split at h
    · exact absurd (hwhite (congrArg Prod.fst (Except.ok.inj h)).symm) hc
    · cases h
  next hblock =>
  have hline' : ¬ (c == '/' && (cs ++ x :: more).head? == some '/') = true := by
    cases cs with
    | nil => simp [hx.slash]
    | cons d ds => exact hline
  have hblock' : ¬ (c == '/' && (cs ++ x :: more).head? == some '*') = true := by
    cases cs with
    | nil => simp [hx.star]
    | cons d ds => exact hblock
  rw [if_neg hline', if_neg hblock']
  split at h
  · next hstart =>
    obtain ⟨rfl, rfl⟩ := Prod.mk.inj (Except.ok.inj h)
    rw [if_pos hstart, takeWhile_append_cons hx.part, dropWhile_append_cons hx.part]
  next hstart =>
  rw [if_neg hstart]
  split at h
  · next hdigit =>
    obtain ⟨rfl, rfl⟩ : some (.number (readNumber c cs).1) = tok? ∧ (readNumber c cs).2 = rest := by
      simpa using h
    rw [if_pos hdigit, readNumber_append hx]
  next hdigit =>
  rw [if_neg hdigit]
  split at h
  · next hquote =>
    rw [if_pos hquote]
    split at h
    · next value after hread =>
      obtain ⟨rfl, rfl⟩ := Prod.mk.inj (Except.ok.inj h)
      obtain ⟨body, rfl, hspelled⟩ := (readString_eq_ok_iff (isQuote_ne_backslash hquote)).1 hread
      have hread' : readString c (body ++ c :: after ++ x :: more) =
          .ok (value, after ++ x :: more) :=
        (readString_eq_ok_iff (isQuote_ne_backslash hquote)).2 ⟨body, by simp, hspelled⟩
      rw [hread']
    · cases h
  · next hquote =>
    rw [if_neg hquote]
    split at h
    · next p after hread =>
      obtain ⟨rfl, rfl⟩ := Prod.mk.inj (Except.ok.inj h)
      rw [← List.cons_append, readPunct?_append hx, hread]
      rfl
    · cases h

/-- Code without comments, in front of such a character. -/
theorem Lexed.append {cs more : List Char} {ls ls' : List Lexeme} (h : Lexed cs ls)
    (hx : Divides x) (hcomment : ∀ l ∈ ls, ¬ IsComment l.text) (h' : Lexed (x :: more) ls') :
    Lexed (cs ++ x :: more) (ls ++ ls') := by
  induction h with
  | nil => exact h'
  | @cons c cs text rest tok? ls hlexeme htext hrest ih =>
    obtain ⟨hfirst, hothers⟩ := List.forall_mem_cons.1 hcomment
    have hjoined : c :: cs ++ x :: more = text ++ (rest ++ x :: more) := by
      rw [htext, List.append_assoc]
    exact .cons (lexeme_append hx hlexeme htext hfirst more) hjoined (ih hothers)

end

/-! ## words -/

/-- A table of ranges with another one that it has no character in common with. -/
theorem inRanges_eq_false {table table' : List (Nat × Nat)} {c : Char}
    (hdisjoint : ∀ r ∈ table, ∀ r' ∈ table', r.2 < r'.1 ∨ r'.2 < r.1)
    (h : inRanges table c = true) : inRanges table' c = false := by
  obtain ⟨r, hr, hmem⟩ := List.any_eq_true.1 h
  refine List.any_eq_false.2 fun r' hr' hmem' => ?_
  have hlt := hdisjoint r hr r' hr'
  simp only [Bool.and_eq_true, decide_eq_true_eq] at hmem hmem'
  omega

/-- No letter is white space of ASCII. -/
theorem isAsciiWhiteSpace_of_isAlpha {c : Char} (h : c.isAlpha = true) :
    isAsciiWhiteSpace c = false := by
  have hcases : c.isUpper = true ∨ c.isLower = true := Bool.or_eq_true_iff.1 h
  have hle : 'A'.val ≤ c.val := by
    rcases hcases with hupper | hlower
    · exact (of_decide_eq_true hupper).1
    · have hle : 'a'.val ≤ c.val := of_decide_eq_true (Bool.and_eq_true_iff.1 hlower).1
      exact UInt32.le_trans (by decide) hle
  have hspace : c ≠ ' ' := by
    rintro rfl
    exact absurd hle (by decide)
  have hcontrol : ¬ c ≤ '\r' := fun hc =>
    absurd (UInt32.le_trans hle hc) (by decide)
  simp [isAsciiWhiteSpace, hspace, hcontrol]

/-- No letter of any script is white space. -/
theorem isWhiteSpace_of_isAlphabetic {c : Char} (h : isAlphabetic c = true) :
    isWhiteSpace c = false := by
  have hdisjoint : ∀ r ∈ alphabeticRanges, ∀ r' ∈ whiteSpaceRanges,
      r.2 < r'.1 ∨ r'.2 < r.1 := by decide +kernel
  unfold isAlphabetic inClass at h
  unfold isWhiteSpace inClass
  split at h
  · next hascii =>
    rw [if_pos hascii]
    exact isAsciiWhiteSpace_of_isAlpha h
  · next hascii =>
    rw [if_neg hascii]
    exact inRanges_eq_false hdisjoint h

/-- Nothing that may begin a word is white space. -/
theorem isWhiteSpace_of_isIdentStart {c : Char} (h : isIdentStart c = true) :
    isWhiteSpace c = false := by
  unfold isIdentStart at h
  simp only [Bool.or_eq_true, beq_iff_eq] at h
  obtain (halpha | rfl) | rfl := h
  · exact isWhiteSpace_of_isAlphabetic halpha
  · rfl
  · rfl

/-- A word ends where a character follows that cannot belong to it. -/
theorem lexeme_word {c d : Char} {cs : List Char} (hc : isIdentStart c = true)
    (hcs : ∀ x ∈ cs, isIdentPart x = true) (hd : isIdentPart d = false) (more : List Char) :
    lexeme c (cs ++ d :: more) = .ok (some (.ident (String.ofList (c :: cs))), d :: more) := by
  have hslash : c ≠ '/' := by
    rintro rfl
    exact absurd hc (by decide)
  have htake : (cs ++ d :: more).takeWhile isIdentPart = cs := by
    rw [takeWhile_append_cons hd, List.takeWhile_eq_self_iff.2 hcs]
  have hdrop : (cs ++ d :: more).dropWhile isIdentPart = d :: more := by
    rw [dropWhile_append_cons hd, List.dropWhile_eq_nil_iff.2 hcs, List.nil_append]
  unfold lexeme
  rw [isWhiteSpace_of_isIdentStart hc, htake, hdrop]
  simp [hslash, hc]

/-! ## pieces of code -/

/-- A word that is written as a name, be it reserved or not. -/
def IsWord (name : String) : Prop :=
  ∃ c cs, name.toList = c :: cs ∧ isIdentStart c = true ∧ cs.all isIdentPart = true

namespace Lexeme

/-- A word. -/
def word (name : String) : Lexeme := ⟨name.toList, some (.ident name)⟩

/-- A space. -/
def space : Lexeme := ⟨[' '], none⟩

/-- An operator or a punctuation mark. -/
def mark (p : Punct) : Lexeme := ⟨p.spelling.toList, some (.punct p)⟩

/-- A string between single quotes that is spelled `body`. -/
def quoted (body value : List Char) : Lexeme :=
  ⟨'\'' :: body ++ ['\''], some (.string (String.ofList value))⟩

end Lexeme

section
variable {cs : List Char} {ls : List Lexeme}

/-- A word is a lexeme if no part of a word comes behind it. -/
theorem lexed_word {name : String} {d : Char} (hname : IsWord name) (hd : isIdentPart d = false)
    (h : Lexed (d :: cs) ls) : Lexed (name.toList ++ d :: cs) (.word name :: ls) := by
  obtain ⟨c, letters, hletters, hc, hcs⟩ := hname
  have hword : String.ofList (c :: letters) = name := by rw [← hletters, String.ofList_toList]
  have hlexeme := lexeme_word hc (List.all_eq_true.1 hcs) hd cs
  rw [hword] at hlexeme
  rw [Lexeme.word, hletters]
  exact .cons hlexeme rfl h

/-- A blank is a lexeme without a token. -/
theorem lexed_space (h : Lexed cs ls) : Lexed (' ' :: cs) (.space :: ls) := .cons rfl rfl h

/-- Brackets and the comma begin no longer mark. -/
theorem lexed_mark (p : Punct) (hp : p ∈ [.lparen, .rparen, .lbrace, .rbrace, .comma])
    (h : Lexed cs ls) : Lexed (p.spelling.toList ++ cs) (.mark p :: ls) := by
  simp only [List.mem_cons, List.not_mem_nil, or_false] at hp
  rcases hp with rfl | rfl | rfl | rfl | rfl <;> exact .cons rfl rfl h

/-- A string in quotes is one lexeme with its value. -/
theorem lexeme_quoted {quote : Char} (hquote : isQuote quote = true) {body value : List Char}
    (hspelled : Spelled quote body value) (cs : List Char) :
    lexeme quote (body ++ quote :: cs) = .ok (some (.string (String.ofList value)), cs) := by
  have hread := readString_of_spelled (isQuote_ne_backslash hquote) hspelled cs
  have hcases : quote = '"' ∨ quote = '\'' ∨ quote = '\x60' := by
    simpa [isQuote, or_assoc] using hquote
  unfold lexeme
  rw [hread]
  rcases hcases with rfl | rfl | rfl <;> rfl

/-- It may come in front of other lexemes. -/
theorem lexed_quoted {body value : List Char} (hspelled : Spelled '\'' body value)
    (h : Lexed cs ls) : Lexed ('\'' :: (body ++ '\'' :: cs)) (.quoted body value :: ls) :=
  .cons (lexeme_quoted rfl hspelled cs) (by simp) h

end

section
variable (base : Nat) (ls : List Lexeme)

/-- No lexemes have no tokens. -/
theorem placed_nil : placed base [] = [] := rfl

/-- A word has its token where it begins. -/
theorem placed_word (name : String) : placed base (.word name :: ls) =
    ⟨.ident name, base⟩ :: placed (base + octets name.toList) ls := rfl

/-- A blank has none. -/
theorem placed_space : placed base (.space :: ls) = placed (base + octets [' ']) ls := rfl

/-- A mark has its token where it begins. -/
theorem placed_mark (p : Punct) : placed base (.mark p :: ls) =
    ⟨.punct p, base⟩ :: placed (base + octets p.spelling.toList) ls := rfl

/-- A string has its token where its quote stands. -/
theorem placed_quoted (body value : List Char) : placed base (.quoted body value :: ls) =
    ⟨.string (String.ofList value), base⟩ ::
      placed (base + octets ('\'' :: body ++ ['\''])) ls := rfl

end

end Stencil.Script
