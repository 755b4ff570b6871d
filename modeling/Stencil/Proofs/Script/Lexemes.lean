import Mathlib.Data.List.TakeWhile
import Stencil.Proofs.Script.Spelling
import Stencil.Script.Lexer

/-!
# Stencil.Proofs.Script.Lexemes

Code as a sequence of lexemes. A lexeme is what the lexer takes in one step: the
text of a token, a character of white space, or a comment. It keeps its text, so
it says where a token ends as well as where it begins.

1. `Formed` lists what a lexeme can be; the lexer takes nothing else
   (`exists_of_lexeme`).
2. `Lexed` cuts code into lexemes. The tokens of accepted code are those of its
   lexemes, each at the offset where its text begins (`tokensFrom_eq_ok_iff`).
3. Where code stands changes nothing but offsets (`placed_add`).
-/

namespace Stencil.Script

open Text Unicode

/-! ## what a lexeme can be -/

/-- The characters of a lexeme, and the token that they are, unless they stand
between tokens. -/
inductive Formed : List Char → Option Tok → Prop where
  | white {c : Char} : isWhiteSpace c = true → Formed [c] none
  | lineComment {body : List Char} : '\n' ∉ body → Formed ('/' :: '/' :: body ++ ['\n']) none
  /-- The last line of a piece of code has no end. -/
  | lastComment {body : List Char} : '\n' ∉ body → Formed ('/' :: '/' :: body) none
  | blockComment {body : List Char} : Formed ('/' :: '*' :: body ++ ['*', '/']) none
  | ident {c : Char} {cs : List Char} : isIdentStart c = true → (∀ x ∈ cs, isIdentPart x = true) →
    Formed (c :: cs) (some (.ident (String.ofList (c :: cs))))
  | integer {whole : List Char} : whole ≠ [] → (∀ x ∈ whole, x.isDigit = true) →
    Formed whole (some (.number (Numeral.ofParts false whole [] 0).toBinary64))
  | decimal {whole fraction : List Char} : whole ≠ [] → (∀ x ∈ whole, x.isDigit = true) →
    fraction ≠ [] → (∀ x ∈ fraction, x.isDigit = true) →
    Formed (whole ++ '.' :: fraction)
      (some (.number (Numeral.ofParts false whole fraction 0).toBinary64))
  | string {quote : Char} {body value : List Char} : isQuote quote = true →
    Spelled quote body value →
    Formed (quote :: body ++ [quote]) (some (.string (String.ofList value)))
  | punct (p : Punct) : Formed p.spelling.toList (some (.punct p))

theorem isQuote_ne_backslash {quote : Char} (h : isQuote quote = true) : quote ≠ '\\' := by
  rintro rfl
  exact absurd h (by decide)

theorem exists_of_readNumber {c : Char} (hc : c.isDigit = true) (cs : List Char) :
    ∃ text, c :: cs = text ++ (readNumber c cs).2 ∧
      Formed text (some (.number (readNumber c cs).1)) := by
  have htake : ∀ {ds : List Char}, ∀ x ∈ ds.takeWhile Char.isDigit, x.isDigit = true :=
    fun x hx => List.mem_takeWhile_imp hx
  have hwhole : ∀ x ∈ c :: cs.takeWhile Char.isDigit, x.isDigit = true :=
    List.forall_mem_cons.2 ⟨hc, htake⟩
  have hsplit : cs = cs.takeWhile Char.isDigit ++ cs.dropWhile Char.isDigit :=
    List.takeWhile_append_dropWhile.symm
  unfold readNumber spanDigits
  dsimp only
  split
  · next d ds hd =>
    split
    · next hdigit =>
      refine ⟨_, ?_, .decimal (by simp) hwhole (by simp) (List.forall_mem_cons.2 ⟨hdigit, htake⟩)⟩
      rw [hd] at hsplit
      simpa using hsplit
    · exact ⟨_, congrArg (c :: ·) hsplit, .integer (by simp) hwhole⟩
  · exact ⟨_, congrArg (c :: ·) hsplit, .integer (by simp) hwhole⟩

theorem exists_of_lineComment (cs : List Char) :
    ∃ text, '/' :: '/' :: cs = text ++ (('/' :: cs).dropWhile (· != '\n')).drop 1 ∧
      Formed text none := by
  have hbody : '\n' ∉ cs.takeWhile (· != '\n') := fun h => by
    simpa using List.mem_takeWhile_imp h
  have hsplit : cs = cs.takeWhile (· != '\n') ++ cs.dropWhile (· != '\n') :=
    List.takeWhile_append_dropWhile.symm
  rw [List.dropWhile_cons_of_pos (by decide)]
  cases hrest : cs.dropWhile (· != '\n') with
  | nil =>
    rw [hrest] at hsplit
    refine ⟨'/' :: '/' :: cs.takeWhile (· != '\n'), ?_, .lastComment hbody⟩
    simpa using hsplit
  | cons d rest =>
    have hd := List.head?_dropWhile_not (· != '\n') cs
    rw [hrest] at hsplit hd
    obtain rfl : d = '\n' := by simpa using hd
    refine ⟨'/' :: '/' :: cs.takeWhile (· != '\n') ++ ['\n'], ?_, .lineComment hbody⟩
    simpa using hsplit

/-- The lexer takes lexemes. -/
theorem exists_of_lexeme {c : Char} {cs rest : List Char} {tok? : Option Tok}
    (h : lexeme c cs = .ok (tok?, rest)) : ∃ text, c :: cs = text ++ rest ∧ Formed text tok? := by
  unfold lexeme at h
  split at h
  · next hwhite =>
    obtain ⟨rfl, rfl⟩ : none = tok? ∧ cs = rest := by simpa using h
    exact ⟨[c], rfl, .white hwhite⟩
  split at h
  · next hline =>
    obtain ⟨rfl, rfl⟩ : none = tok? ∧ (cs.dropWhile (· != '\n')).drop 1 = rest := by simpa using h
    obtain ⟨rfl, hhead⟩ : c = '/' ∧ cs.head? = some '/' := by simpa using hline
    obtain ⟨body, rfl⟩ := List.head?_eq_some_iff.1 hhead
    exact exists_of_lineComment body
  split at h
  · next hblock =>
    obtain ⟨rfl, hhead⟩ : c = '/' ∧ cs.head? = some '*' := by simpa using hblock
    obtain ⟨body, rfl⟩ := List.head?_eq_some_iff.1 hhead
    split at h
    · next before after hcut =>
      obtain ⟨rfl, rfl⟩ : none = tok? ∧ after = rest := by simpa using h
      refine ⟨'/' :: '*' :: before ++ ['*', '/'], ?_, .blockComment⟩
      rw [List.drop_one, List.tail_cons] at hcut
      rw [eq_append_of_cutAt? hcut]
      simp
    · cases h
  split at h
  · next hstart =>
    obtain ⟨htok, rfl⟩ : some (.ident (String.ofList (c :: cs.takeWhile isIdentPart))) = tok? ∧
        cs.dropWhile isIdentPart = rest := by
      simpa only [Except.ok.injEq, Prod.mk.injEq] using h
    subst htok
    refine ⟨c :: cs.takeWhile isIdentPart, ?_, .ident hstart fun x hx => List.mem_takeWhile_imp hx⟩
    rw [List.cons_append, List.takeWhile_append_dropWhile]
  split at h
  · next hdigit =>
    obtain ⟨rfl, rfl⟩ : some (.number (readNumber c cs).1) = tok? ∧ (readNumber c cs).2 = rest := by
      simpa using h
    exact exists_of_readNumber hdigit cs
  split at h
  · next hquote =>
    split at h
    · next value after hread =>
      obtain ⟨rfl, rfl⟩ : some (.string (String.ofList value)) = tok? ∧ after = rest := by
        simpa using h
      obtain ⟨body, rfl, hspelled⟩ := (readString_eq_ok_iff (isQuote_ne_backslash hquote)).1 hread
      exact ⟨c :: body ++ [c], by simp, .string hquote hspelled⟩
    · cases h
  · split at h
    · next p after hread =>
      obtain ⟨rfl, rfl⟩ : some (.punct p) = tok? ∧ after = rest := by simpa using h
      obtain ⟨q, -, hq⟩ := List.exists_of_findSome?_eq_some hread
      obtain ⟨r, hr, heq⟩ := Option.map_eq_some_iff.1 hq
      obtain ⟨rfl, rfl⟩ : q = p ∧ r = after := by simpa using heq
      exact ⟨_, eq_append_of_afterPrefix? hr, .punct q⟩
    · cases h

theorem formed_of_lexeme {c : Char} {cs text rest : List Char} {tok? : Option Tok}
    (h : lexeme c cs = .ok (tok?, rest)) (htext : c :: cs = text ++ rest) : Formed text tok? := by
  obtain ⟨text', heq, hformed⟩ := exists_of_lexeme h
  rw [htext] at heq
  obtain rfl := List.append_cancel_right heq
  exact hformed

/-- The text is a comment, if it is a lexeme. -/
def IsComment (text : List Char) : Prop := ['/', '/'] <+: text ∨ ['/', '*'] <+: text

/-- A comment to the end of the line takes the line end, too. -/
theorem lexeme_lineComment (ds : List Char) :
    lexeme '/' ('/' :: ds) = .ok (none, (ds.dropWhile (· != '\n')).drop 1) := by
  have hwhite : isWhiteSpace '/' = false := by decide
  unfold lexeme
  simp [hwhite]

/-- A comment between marks ends with the first closing mark. -/
theorem lexeme_blockComment {ds before after : List Char}
    (h : cutAt? ['*', '/'] ds = some (before, after)) :
    lexeme '/' ('*' :: ds) = .ok (none, after) := by
  have hwhite : isWhiteSpace '/' = false := by decide
  unfold lexeme
  simp [hwhite, h]

/-- What the lexer refuses. -/
theorem lexeme_eq_error {c : Char} {cs : List Char} {e : LexError}
    (h : lexeme c cs = .error e) :
    (c = '/' ∧ cs.head? = some '*' ∧ e.cause = .unterminatedComment) ∨
    (isQuote c = true ∧ readString c cs = .error e.cause) ∨
    ∃ d, e.cause = .unexpectedCharacter d := by
  unfold lexeme at h
  split at h
  · cases h
  split at h
  · cases h
  split at h
  · next hblock =>
    obtain ⟨rfl, hhead⟩ : c = '/' ∧ cs.head? = some '*' := by simpa using hblock
    split at h
    · cases h
    · obtain rfl : ⟨.unterminatedComment, []⟩ = e := by simpa using h
      exact .inl ⟨rfl, hhead, rfl⟩
  split at h
  · cases h
  split at h
  · cases h
  split at h
  · next hquote =>
    split at h
    · cases h
    · next cause hread =>
      obtain rfl : ⟨cause, []⟩ = e := by simpa using h
      exact .inr (.inl ⟨hquote, hread⟩)
  · split at h
    · cases h
    · obtain rfl : ⟨.unexpectedCharacter c, c :: cs⟩ = e := by simpa using h
      exact .inr (.inr ⟨c, rfl⟩)

/-! ## lexemes -/

/-- A step of the lexer. -/
structure Lexeme where
  text : List Char
  tok? : Option Tok

/-- The lexemes of a run of characters. -/
inductive Lexed : List Char → List Lexeme → Prop where
  | nil : Lexed [] []
  | cons {c : Char} {cs text rest : List Char} {tok? : Option Tok} {ls : List Lexeme} :
    lexeme c cs = .ok (tok?, rest) → c :: cs = text ++ rest → Lexed rest ls →
    Lexed (c :: cs) (⟨text, tok?⟩ :: ls)

/-- The tokens of lexemes, the first of which begins at offset `base`. -/
def placed (base : Nat) : List Lexeme → List Token
  | [] => []
  | l :: ls => (l.tok?.map fun tok => ⟨tok, base⟩).toList ++ placed (base + octets l.text) ls

theorem octets_sub {cs text rest : List Char} (h : cs = text ++ rest) :
    octets cs - octets rest = octets text := by
  rw [h, octets_append]
  omega

theorem tokensFrom_cons {c : Char} {cs text rest : List Char} {tok? : Option Tok} (base : Nat)
    (h : lexeme c cs = .ok (tok?, rest)) (htext : c :: cs = text ++ rest) :
    tokensFrom base (c :: cs) = (tokensFrom (base + octets text) rest).map
      ((tok?.map fun tok => ⟨tok, base⟩).toList ++ ·) := by
  rw [tokensFrom]
  split
  · next e he =>
    rw [h] at he
    cases he
  · next tok? rest he =>
    rw [h] at he
    cases he
    rw [octets_sub htext]
    rfl

/-- The tokens of code are those of its lexemes. -/
theorem tokensFrom_eq_ok_iff {base : Nat} {cs : List Char} {ts : List Token} :
    tokensFrom base cs = .ok ts ↔ ∃ ls, Lexed cs ls ∧ placed base ls = ts := by
  constructor
  · intro h
    fun_induction tokensFrom base cs generalizing ts with
    | case1 base =>
      obtain rfl : [] = ts := by simpa using h
      exact ⟨[], .nil, rfl⟩
    | case2 => cases h
    | case3 base c cs tok? rest hlexeme ih =>
      obtain ⟨text, htext, -⟩ := exists_of_lexeme hlexeme
      obtain ⟨more, hmore, hts⟩ := Except.bind_eq_ok_iff.1 h
      obtain ⟨ls, hls, hplaced⟩ := ih hmore
      refine ⟨⟨text, tok?⟩ :: ls, .cons hlexeme htext hls, ?_⟩
      rw [octets_sub htext] at hplaced
      rw [placed, hplaced]
      exact Except.ok.inj hts
  · rintro ⟨ls, hlexed, rfl⟩
    induction hlexed generalizing base with
    | nil => rw [tokensFrom, placed]
    | cons hlexeme htext hrest ih =>
      rw [tokensFrom_cons base hlexeme htext, ih]
      rfl

/-- The texts of lexemes make up the code. -/
theorem Lexed.formed {cs : List Char} {ls : List Lexeme} (h : Lexed cs ls) :
    ∀ l ∈ ls, Formed l.text l.tok? := by
  induction h with
  | nil => simp
  | cons hlexeme htext hrest ih =>
    exact List.forall_mem_cons.2 ⟨formed_of_lexeme hlexeme htext, ih⟩

/-! ## code elsewhere -/

/-- A token after `n` more outputs. -/
def Tok.renumber (n : Nat) : Tok → Tok
  | .emit index => .emit (n + index)
  | tok => tok

/-- A token after `n` more outputs and `m` more octets. -/
def Token.move (n m : Nat) (t : Token) : Token := ⟨t.tok.renumber n, m + t.offset⟩

/-- Code holds no outputs, so where it stands changes its offsets only. -/
theorem placed_add (n m base : Nat) {ls : List Lexeme} (h : ∀ l ∈ ls, Formed l.text l.tok?) :
    placed (m + base) ls = (placed base ls).map (Token.move n m) := by
  induction ls generalizing base with
  | nil => rfl
  | cons l ls ih =>
    obtain ⟨text, tok?⟩ := l
    rw [placed, placed, List.map_append, ← ih (base + octets text) fun l hl => h l (by simp [hl]),
      Nat.add_assoc]
    have hfirst : Formed text tok? := h ⟨text, tok?⟩ (by simp)
    cases hfirst <;> rfl

theorem placed_append (base : Nat) (ls more : List Lexeme) :
    placed base (ls ++ more) =
      placed base ls ++ placed (base + octets (ls.flatMap Lexeme.text)) more := by
  induction ls generalizing base with
  | nil => rfl
  | cons l ls ih =>
    rw [List.cons_append, placed, placed, ih, List.flatMap_cons, octets_append, Nat.add_assoc,
      List.append_assoc]

end Stencil.Script
