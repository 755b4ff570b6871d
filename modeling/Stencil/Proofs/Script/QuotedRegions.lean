import Stencil.Proofs.Script.Lexemes
import Stencil.Proofs.Template.Content

/-!
# Stencil.Proofs.Script.QuotedRegions

The search for the end of a marker and the lexer agree on strings. The search
reads octets and knows nothing of the script language but its quotes and the
backslash; the lexer reads characters, with escapes of several characters. Yet in
the content of a marker without a comment sign outside of quotes, the string
tokens are the quoted regions that the search went through, and no string is left
open.

1. A character takes the search from state to state as an octet would, since its
   octets are taken for a quote or a backslash only if it is one
   (`ne_of_mem_utf8EncodeChar`).
2. What is spelled between two quotes closes no region (`Spelled.passes`), and a
   string that is not closed leaves the search in its region
   (`foldl_ne_outside`).
3. A lexeme that is neither a string nor a comment has no quote
   (`Formed.unquoted`), so the regions of code are those of its strings, one
   after the other (`regions_eq_stringSpans`).
-/

namespace Stencil.Script

open Text Unicode
open Quotation (after BareAt Passes forall_eq_false regions regions_outside regions_region
  passes_inside passes_backslash passes_hidden passes_of_forall passes_of_bare after_region
  bareAt_iff)

/-! ## characters and octets -/

/-- The octet of a character of ASCII. -/
def octetOf (c : Char) : UInt8 := c.val.toUInt8

/-- A character of ASCII is one octet. -/
theorem utf8EncodeChar_of_ascii {c : Char} (h : c.toNat < 0x80) :
    String.utf8EncodeChar c = [octetOf c] :=
  String.utf8EncodeChar_eq_singleton
    (Char.utf8Size_eq_one_iff.2 (UInt32.le_iff_toNat_le.2 (Nat.le_of_lt_succ h)))

/-- The octet has the number of the character. -/
theorem toNat_octetOf {c : Char} (h : c.toNat < 0x80) : (octetOf c).toNat = c.toNat := by
  have hc : c.val.toNat < 0x80 := h
  rw [octetOf, UInt32.toNat_toUInt8, Nat.mod_eq_of_lt (by omega)]
  rfl

/-- The octet of a character of ASCII is in no other character. -/
theorem ne_of_mem_utf8EncodeChar {c d : Char} (hd : d.toNat < 0x80) (hne : c ≠ d) :
    ∀ b ∈ String.utf8EncodeChar c, b ≠ octetOf d := by
  rintro b hb rfl
  by_cases hc : c.toNat < 0x80
  · rw [utf8EncodeChar_of_ascii hc, List.mem_singleton] at hb
    refine hne (Char.toNat_inj.1 ?_)
    rw [← toNat_octetOf hc, ← toNat_octetOf hd, hb]
  · have hle := le_of_mem_utf8EncodeChar (Nat.le_of_not_lt hc) _ hb
    rw [toNat_octetOf hd] at hle
    omega

/-- There are three quotes. -/
theorem isQuote_iff {c : Char} : isQuote c = true ↔ c = '"' ∨ c = '\'' ∨ c = '\x60' := by
  simp [isQuote, or_assoc]

/-- Each of them is of ASCII. -/
theorem ascii_of_isQuote {c : Char} (h : isQuote c = true) : c.toNat < 0x80 := by
  rcases isQuote_iff.1 h with rfl | rfl | rfl <;> decide

/-- The octet of a quote is a quote. -/
theorem isQuote_octetOf {c : Char} (h : isQuote c = true) : Scan.isQuote (octetOf c) = true := by
  rcases isQuote_iff.1 h with rfl | rfl | rfl <;> decide

/-- A character that is no quote has no octet that is one. -/
theorem isQuote_of_mem_utf8EncodeChar {c : Char} (h : isQuote c = false) :
    ∀ b ∈ String.utf8EncodeChar c, Scan.isQuote b = false := by
  intro b hb
  have hne : ∀ d : Char, isQuote d = true → b ≠ octetOf d := fun d hd => by
    refine ne_of_mem_utf8EncodeChar (ascii_of_isQuote hd) ?_ b hb
    rintro rfl
    rw [h] at hd
    cases hd
  have hdouble : b ≠ 0x22 := hne '"' (by decide)
  have hsingle : b ≠ 0x27 := hne '\'' (by decide)
  have hback : b ≠ 0x60 := hne '\x60' (by decide)
  simp [Scan.isQuote, hdouble, hsingle, hback]

/-! ## characters in regions -/

section
variable {quote c : Char}

/-- A character of a string that is neither a quote nor a backslash is passed over. -/
theorem passes_char (hquote : isQuote quote = true) (hslash : c ≠ '\\') (hne : c ≠ quote) :
    Passes (.inside (octetOf quote)) (.inside (octetOf quote)) (String.utf8EncodeChar c) :=
  passes_of_forall fun b hb => passes_inside
    (ne_of_mem_utf8EncodeChar (d := '\\') (by decide) hslash b hb)
    (ne_of_mem_utf8EncodeChar (ascii_of_isQuote hquote) hne b hb)

/-- So are several of them. -/
theorem passes_plain (hquote : isQuote quote = true) {cs : List Char} (h : ∀ c ∈ cs, Plain c) :
    Passes (.inside (octetOf quote)) (.inside (octetOf quote)) (utf8Chars cs) := by
  induction cs with
  | nil => exact .nil _
  | cons c cs ih =>
    obtain ⟨hslash, hc⟩ := h c (by simp)
    have hne : c ≠ quote := by
      rintro rfl
      rw [hc] at hquote
      cases hquote
    exact (passes_char hquote hslash hne).append (ih fun x hx => h x (by simp [hx]))

/-- A backslash hides a whole character. -/
theorem passes_escape (hquote : isQuote quote = true) (c : Char) :
    Passes (.inside (octetOf quote)) (.inside (octetOf quote)) (utf8Chars ['\\', c]) := by
  have hslash : utf8Chars ['\\', c] = Scan.backslash :: String.utf8EncodeChar c := by
    rw [utf8Chars_cons, utf8Chars_cons, utf8Chars_nil, List.append_nil,
      utf8EncodeChar_of_ascii (by decide)]
    rfl
  obtain ⟨b, bs, hc, -⟩ := exists_utf8EncodeChar c
  rw [hslash, hc]
  refine .cons (passes_backslash _) (.cons (passes_hidden _ b) (passes_of_forall fun x hx => ?_))
  -- only a character outside of ASCII has an octet that is not hidden
  have hascii : 0x80 ≤ c.toNat := Nat.le_of_not_lt fun hlt => by
    rw [utf8EncodeChar_of_ascii hlt] at hc
    obtain ⟨-, rfl⟩ := List.cons.inj hc
    cases hx
  have hle := le_of_mem_utf8EncodeChar hascii x (by rw [hc]; exact List.mem_cons_of_mem b hx)
  refine passes_inside ?_ ?_
  · rintro rfl
    exact absurd hle (by decide)
  · rintro rfl
    rw [toNat_octetOf (ascii_of_isQuote hquote)] at hle
    exact absurd (ascii_of_isQuote hquote) (Nat.not_lt_of_le hle)

/-- What is spelled between quotes closes no region. -/
theorem Spelled.passes {body value : List Char} (h : Spelled quote body value)
    (hquote : isQuote quote = true) :
    Passes (.inside (octetOf quote)) (.inside (octetOf quote)) (utf8Chars body) := by
  induction h with
  | nil => exact .nil _
  | @plain c body value hslash hne h ih => exact (passes_char hquote hslash hne).append ih
  | @hidden c body value hc h ih =>
    have hbody : '\\' :: c :: body = ['\\', c] ++ body := rfl
    rw [hbody, utf8Chars_append]
    exact (passes_escape hquote c).append ih
  | @coded esc body value c hesc h ih =>
    have hbody : '\\' :: 'u' :: (esc ++ body) = ['\\', 'u'] ++ (esc ++ body) := rfl
    rw [hbody, utf8Chars_append, utf8Chars_append]
    exact (passes_escape hquote 'u').append ((passes_plain hquote hesc.plain).append ih)

/-- What is passed over changes the state as it says, whatever follows. -/
theorem foldl_utf8Chars_append {s s' : Quotation.State} {cs : List Char}
    (h : Passes s s' (utf8Chars cs)) (ds : List Char) :
    (utf8Chars (cs ++ ds)).foldl Quotation.step s = (utf8Chars ds).foldl Quotation.step s' := by
  rw [utf8Chars_append, List.foldl_append, h.foldl]

/-- The region of a string that is not closed is not closed. -/
theorem foldl_ne_outside (hquote : isQuote quote = true) {cs : List Char}
    (h : readString quote cs = .error .unterminatedString) :
    (utf8Chars cs).foldl Quotation.step (.inside (octetOf quote)) ≠ .outside := by
  fun_induction readString quote cs with
  | case1 => exact Quotation.State.noConfusion
  | case2 =>
    have hslash : utf8Chars ['\\'] = [Scan.backslash] := by decide
    rw [hslash, (passes_backslash _).foldl]
    exact Quotation.State.noConfusion
  | case3 => cases h
  | case4 cs c n hc ih =>
    have hrest := ih (Except.map_eq_error_iff.1 h)
    have hescape : '\\' :: 'u' :: cs = ['\\', 'u'] ++ cs := rfl
    rw [hescape, foldl_utf8Chars_append (passes_escape hquote 'u')]
    rcases unicodeEscape?_eq_some hc with ⟨esc, after, rfl, rfl, hesc⟩ | ⟨-, hdigits⟩
    · rw [List.drop_left] at hrest
      rwa [foldl_utf8Chars_append (passes_plain hquote hesc.plain)]
    · rw [(passes_plain hquote fun x hx => (hdigits x hx).plain).foldl]
      exact Quotation.State.noConfusion
  | case5 c cs hc ih =>
    have hescape : '\\' :: c :: cs = ['\\', c] ++ cs := rfl
    rw [hescape, foldl_utf8Chars_append (passes_escape hquote c)]
    exact ih (Except.map_eq_error_iff.1 h)
  | case6 => cases h
  | case7 c cs hend _ hmore hc ih =>
    have hslash : c ≠ '\\' := by
      rintro rfl
      cases cs with
      | nil => exact hend rfl rfl
      | cons d ds => exact hmore d ds rfl rfl
    rw [utf8Chars_cons, List.foldl_append, (passes_char hquote hslash (by simpa using hc)).foldl]
    exact ih (Except.map_eq_error_iff.1 h)

/-- A string is rejected since it does not end or has a wrong escape. -/
theorem readString_error {cs : List Char} {cause : SyntaxCause}
    (h : readString quote cs = .error cause) :
    cause = .unterminatedString ∨ cause = .invalidEscape := by
  fun_induction readString quote cs with
  | case1 => exact .inl (Except.error.inj h).symm
  | case2 => exact .inl (Except.error.inj h).symm
  | case3 => exact .inr (Except.error.inj h).symm
  | case4 _ _ _ _ ih => exact ih (Except.map_eq_error_iff.1 h)
  | case5 _ _ _ ih => exact ih (Except.map_eq_error_iff.1 h)
  | case6 => cases h
  | case7 _ _ _ _ _ _ ih => exact ih (Except.map_eq_error_iff.1 h)

end

/-! ## lexemes -/

/-- A character of a class that has no quote is no quote. -/
theorem isQuote_eq_false {p : Char → Bool} (hp : p '"' = false ∧ p '\'' = false ∧ p '\x60' = false)
    {c : Char} (hc : p c = true) : isQuote c = false := by
  refine Bool.eq_false_iff.2 fun hquote => ?_
  obtain ⟨hdouble, hsingle, hback⟩ := hp
  rcases isQuote_iff.1 hquote with rfl | rfl | rfl
  · rw [hdouble] at hc
    cases hc
  · rw [hsingle] at hc
    cases hc
  · rw [hback] at hc
    cases hc

/-- No digit is a quote. -/
theorem isQuote_of_isDigit {c : Char} (h : c.isDigit = true) : isQuote c = false :=
  isQuote_eq_false (by decide) h

/-- Whether a token is a string. -/
def Tok.isString : Tok → Bool
  | .string _ => true
  | _ => false

/-- Only strings and comments have quotes. -/
theorem Formed.unquoted {text : List Char} {tok? : Option Tok} (h : Formed text tok?)
    (hcomment : ¬ IsComment text) (hstring : tok?.all (fun tok => !tok.isString) = true) :
    ∀ c ∈ text, isQuote c = false := by
  cases h with
  | @white c hc =>
    have hclass : isQuote c = false := isQuote_eq_false (by decide) hc
    simpa using hclass
  | lineComment => exact absurd (.inl ⟨_, rfl⟩) hcomment
  | lastComment => exact absurd (.inl ⟨_, rfl⟩) hcomment
  | blockComment => exact absurd (.inr ⟨_, rfl⟩) hcomment
  | ident hstart hpart =>
    exact List.forall_mem_cons.2 ⟨isQuote_eq_false (by decide) hstart, fun x hx =>
      isQuote_eq_false (by decide) (hpart x hx)⟩
  | integer hne hdigits => exact fun x hx => isQuote_of_isDigit (hdigits x hx)
  | decimal hne hwhole hne' hfraction =>
    intro x hx
    rcases List.mem_append.1 hx with hx | hx
    · exact isQuote_of_isDigit (hwhole x hx)
    rcases List.mem_cons.1 hx with rfl | hx
    · decide
    · exact isQuote_of_isDigit (hfraction x hx)
  | string => cases hstring
  | punct p => cases p <;> exact forall_eq_false rfl

/-- The places of the strings among lexemes, the first of which begins at `i`. -/
def stringSpans (i : Nat) : List Lexeme → List (Nat × Nat)
  | [] => []
  | l :: ls =>
    (if l.tok?.any Tok.isString then [(i, i + octets l.text)] else []) ++
      stringSpans (i + octets l.text) ls

/-- Strings begin where their tokens stand. -/
theorem starts_stringSpans (base : Nat) (ls : List Lexeme) :
    (stringSpans base ls).map Prod.fst =
      ((placed base ls).filter (fun t => t.tok.isString)).map Token.offset := by
  induction ls generalizing base with
  | nil => rfl
  | cons l ls ih =>
    obtain ⟨text, tok?⟩ := l
    rw [stringSpans, placed, List.map_append, List.filter_append, List.map_append, ih]
    cases tok? with
    | none => rfl
    | some tok => cases tok <;> rfl

/-- A lexeme that is no comment leaves no region open, and if it has one it is
the region of a string. -/
theorem Formed.regions {text : List Char} {tok? : Option Tok} (h : Formed text tok?)
    (hcomment : ¬ IsComment text) :
    after (utf8Chars text) = .outside ∧ ∀ i rest,
      regions 0 .outside i (utf8Chars text ++ rest) =
        stringSpans i [⟨text, tok?⟩] ++ regions 0 .outside (i + octets text) rest := by
  cases hstring : tok?.any Tok.isString with
  | false =>
    have hall : tok?.all (fun tok => !tok.isString) = true := by
      cases tok? with
      | none => rfl
      | some tok => simpa using hstring
    have hpasses : Passes .outside .outside (utf8Chars text) := passes_of_bare fun b hb => by
      obtain ⟨c, hc, hbc⟩ := List.mem_flatMap.1 hb
      exact isQuote_of_mem_utf8EncodeChar (h.unquoted hcomment hall c hc) b hbc
    refine ⟨hpasses.foldl, fun i rest => ?_⟩
    rw [hpasses.regions, length_utf8Chars]
    simp [stringSpans, hstring]
  | true =>
    cases h with
    | @string quote body value hquote hspelled =>
      have hpasses := hspelled.passes hquote
      have htext : utf8Chars (quote :: body ++ [quote]) =
          octetOf quote :: utf8Chars body ++ [octetOf quote] := by
        rw [utf8Chars_append, utf8Chars_cons, utf8Chars_cons, utf8Chars_nil,
          utf8EncodeChar_of_ascii (ascii_of_isQuote hquote)]
        rfl
      have hoctets : octets (quote :: body ++ [quote]) = (utf8Chars body).length + 2 := by
        rw [← length_utf8Chars, htext]
        simp
      refine ⟨?_, fun i rest => ?_⟩
      · rw [htext]
        exact after_region (isQuote_octetOf hquote) hpasses
      · rw [htext, hoctets, List.append_assoc, List.singleton_append,
          regions_region (isQuote_octetOf hquote) hpasses]
        simp only [stringSpans, hstring, hoctets, if_true]
        rfl
    | _ => simp [Tok.isString] at hstring

/-! ## code without comments -/

/-- No sign of a comment stands outside of regions. -/
structure Uncommented (bs : List UInt8) : Prop where
  line : ∀ i, ¬ BareAt (utf8 "//") bs i
  block : ∀ i, ¬ BareAt (utf8 "/*") bs i

instance (bs : List UInt8) : Decidable (Uncommented bs) :=
  decidable_of_iff ((∀ i, ¬ BareAt (utf8 "//") bs i) ∧ ∀ i, ¬ BareAt (utf8 "/*") bs i)
    ⟨fun h => ⟨h.1, h.2⟩, fun h => ⟨h.line, h.block⟩⟩

/-- What follows something outside of all regions has no comment either. -/
theorem Uncommented.of_append {xs ys : List UInt8} (h : Uncommented (xs ++ ys))
    (hxs : after xs = .outside) : Uncommented ys :=
  ⟨fun _ hi => h.line _ (hi.append hxs), fun _ hi => h.block _ (hi.append hxs)⟩

/-- So the first lexeme is no comment. -/
theorem Uncommented.not_isComment {text rest : List Char}
    (h : Uncommented (utf8Chars (text ++ rest))) : ¬ IsComment text := by
  rintro (⟨cs, rfl⟩ | ⟨cs, rfl⟩)
  · exact h.line 0 ((bareAt_iff (by decide)).2
      ⟨[], utf8Chars (cs ++ rest), rfl, rfl, rfl, forall_eq_false rfl⟩)
  · exact h.block 0 ((bareAt_iff (by decide)).2
      ⟨[], utf8Chars (cs ++ rest), rfl, rfl, rfl, forall_eq_false rfl⟩)

/-- The first lexeme of code without comments, and the code after it. -/
theorem Uncommented.first {c : Char} {cs text rest : List Char} {tok? : Option Tok}
    (h : Uncommented (utf8Chars (c :: cs))) (hlexeme : lexeme c cs = .ok (tok?, rest))
    (htext : c :: cs = text ++ rest) :
    after (utf8Chars text) = .outside ∧ Uncommented (utf8Chars rest) ∧ ∀ i,
      regions 0 .outside i (utf8Chars (c :: cs)) =
        stringSpans i [⟨text, tok?⟩] ++ regions 0 .outside (i + octets text) (utf8Chars rest) := by
  rw [htext] at h ⊢
  obtain ⟨hafter, hregions⟩ := (formed_of_lexeme hlexeme htext).regions h.not_isComment
  rw [utf8Chars_append] at h ⊢
  exact ⟨hafter, h.of_append hafter, fun i => hregions i _⟩

/-- So no lexeme is a comment. -/
theorem Uncommented.not_mem {cs : List Char} {ls : List Lexeme} (h : Lexed cs ls)
    (hcomment : Uncommented (utf8Chars cs)) : ∀ l ∈ ls, ¬ IsComment l.text := by
  induction h with
  | nil => simp
  | cons hlexeme htext hrest ih =>
    obtain ⟨-, hmore, -⟩ := hcomment.first hlexeme htext
    rw [htext] at hcomment
    exact List.forall_mem_cons.2 ⟨hcomment.not_isComment, ih hmore⟩

/-- The regions of code without comments are its strings. -/
theorem regions_eq_stringSpans {cs : List Char} {ls : List Lexeme} (h : Lexed cs ls)
    (hcomment : Uncommented (utf8Chars cs)) (i : Nat) :
    regions 0 .outside i (utf8Chars cs) = stringSpans i ls := by
  induction h generalizing i with
  | nil => rfl
  | cons hlexeme htext hrest ih =>
    obtain ⟨-, hmore, hregions⟩ := hcomment.first hlexeme htext
    rw [hregions, ih hmore]
    simp [stringSpans]

/-- In code without comments that leaves no region open, every string is closed. -/
theorem cause_of_tokensFrom {base : Nat} {cs : List Char} {e : LexError}
    (h : tokensFrom base cs = .error e) (hcomment : Uncommented (utf8Chars cs))
    (hafter : after (utf8Chars cs) = .outside) :
    e.cause ≠ .unterminatedString ∧ e.cause ≠ .unterminatedComment := by
  fun_induction tokensFrom base cs with
  | case1 => cases h
  | case2 base c cs e' hlexeme =>
    obtain rfl : e' = e := Except.error.inj h
    rcases lexeme_eq_error hlexeme with ⟨rfl, hhead, -⟩ | ⟨hquote, hread⟩ | ⟨d, hcause⟩
    · obtain ⟨ds, rfl⟩ := List.head?_eq_some_iff.1 hhead
      have hopening : ¬ IsComment ['/', '*'] := hcomment.not_isComment
      exact absurd (.inr (List.prefix_refl _)) hopening
    · refine ⟨fun hcause => ?_, fun hcause => ?_⟩
      · rw [hcause] at hread
        refine foldl_ne_outside hquote hread ?_
        rw [utf8Chars_cons, utf8EncodeChar_of_ascii (ascii_of_isQuote hquote)] at hafter
        have hopen : Quotation.step .outside (octetOf c) = .inside (octetOf c) := by
          rw [Quotation.step, if_pos (isQuote_octetOf hquote)]
        rwa [List.singleton_append, after, List.foldl_cons, hopen] at hafter
      · rcases readString_error hread with heq | heq <;> rw [hcause] at heq <;> cases heq
    · rw [hcause]
      exact ⟨SyntaxCause.noConfusion, SyntaxCause.noConfusion⟩
  | case3 base c cs tok? rest hlexeme ih =>
    obtain ⟨text, htext, -⟩ := exists_of_lexeme hlexeme
    obtain ⟨hfirst, hmore, -⟩ := hcomment.first hlexeme htext
    rw [htext, utf8Chars_append, Quotation.after_append_of_outside hfirst] at hafter
    cases hrest : tokensFrom (base + (octets (c :: cs) - octets rest)) rest with
    | ok ts =>
      rw [hrest] at h
      cases h
    | error e' =>
      rw [hrest] at h
      obtain rfl : e' = e := Except.error.inj h
      exact ih hrest hmore hafter

/-! ## markers -/

/-- **The search for the end of a marker and the lexer agree on strings.** If no
sign of a comment stands outside of the regions of the content of a marker, the
lexer finds no string and no comment in it that is not closed; and where it
accepts the content, the strings stand in the regions that the search tracked. -/
theorem stringSpans_eq_tracked (d : Delimiters) (source : String) {m : Marker}
    (hm : m ∈ Scan.markers (Scan.segments d source)) (hcomment : Uncommented (utf8 m.content)) :
    utf8 m.content <+: (utf8 source).drop (m.contentStart d) ∧
    (∀ base cause near, tokens base m.content = .error (.malformed cause near) →
      cause ≠ .unterminatedString ∧ cause ≠ .unterminatedComment) ∧
    ∀ base ts, tokens base m.content = .ok ts → ∃ ls, Lexed m.content.toList ls ∧
      ts = placed base ls ∧
      (ts.filter fun t => t.tok.isString).map Token.offset = (stringSpans base ls).map Prod.fst ∧
      stringSpans (m.contentStart d) ls =
        Scan.tracked (utf8 d.closing) 0 (.outside (utf8 d.closing)) (m.innerStart d)
          ((utf8 source).drop (m.innerStart d)) := by
  obtain ⟨hstarts, hafter, htracked⟩ := Scan.tracked_content d source hm
  refine ⟨hstarts, fun base cause near h => ?_, fun base ts h => ?_⟩
  · unfold tokens at h
    split at h
    · cases h
    · next e he =>
      obtain ⟨rfl, -⟩ := Error.malformed.inj (Except.error.inj h)
      exact cause_of_tokensFrom he hcomment hafter
  · unfold tokens at h
    split at h
    · next ts' hts =>
      obtain rfl : ts' = ts := Except.ok.inj h
      obtain ⟨ls, hlexed, rfl⟩ := tokensFrom_eq_ok_iff.1 hts
      refine ⟨ls, hlexed, rfl, (starts_stringSpans base ls).symm, ?_⟩
      rw [htracked]
      exact (regions_eq_stringSpans hlexed hcomment _).symm
    · cases h

/-- A delimiter and a quote in a string, and a string that ends with an escape. -/
theorem stringSpans_eq_tracked_call :
    ∃ m ∈ Scan.markers (Scan.segments .standard "é[[= f(\"]]\\\"\", '\\u0041')>]]"),
      Uncommented (utf8 m.content) ∧
      ∃ ls, tokens 5 m.content = .ok (placed 5 ls) ∧ Lexed m.content.toList ls ∧
        stringSpans 5 ls = [(8, 14), (16, 24)] := by
  have hsegments : Scan.segments .standard "é[[= f(\"]]\\\"\", '\\u0041')>]]" = [
      .text "é", .marker ⟨2, 28, " f(\"]]\\\"\", '\\u0041')", .escaped, .lineEndings⟩] := by
    decide +kernel
  have hm : (⟨2, 28, " f(\"]]\\\"\", '\\u0041')", .escaped, .lineEndings⟩ : Marker) ∈
      Scan.markers (Scan.segments .standard "é[[= f(\"]]\\\"\", '\\u0041')>]]") := by
    rw [hsegments]
    decide
  have hcomment : Uncommented (utf8 " f(\"]]\\\"\", '\\u0041')") := by decide
  have htracked : Scan.tracked (utf8 "]]") 0 (.outside (utf8 "]]")) 4
      ((utf8 "é[[= f(\"]]\\\"\", '\\u0041')>]]").drop 4) = [(8, 14), (16, 24)] := by decide
  have hok : (tokens 5 " f(\"]]\\\"\", '\\u0041')").isOk = true := by decide +kernel
  refine ⟨_, hm, hcomment, ?_⟩
  cases hts : tokens 5 " f(\"]]\\\"\", '\\u0041')" with
  | error e =>
    rw [hts] at hok
    cases hok
  | ok ts =>
    obtain ⟨-, -, hspans⟩ := stringSpans_eq_tracked .standard _ hm hcomment
    obtain ⟨ls, hlexed, rfl, -, hstrings⟩ := hspans 5 ts hts
    exact ⟨ls, rfl, hlexed, hstrings.trans htracked⟩

end Stencil.Script
