import Stencil.Codegen.StringLiteral
import Stencil.Proofs.Text.Find
import Stencil.Proofs.Text.Hex

/-!
# Stencil.Proofs.Codegen.Literal

Literals are read back. `StandsFor` says that some characters of a literal stand for
a character of its value, whatever comes after them, so a text can be looked at one
character at a time.

1. The characters of `literal` and those of `shownLiteral` are such parts
   (`standsFor_literalChar`, `standsFor_quotedChar`).
2. The reader therefore stops at the quote that was written last and gives the text
   (`readCooked?_literalChars`, `readCooked?_shownChars`). What follows a literal stays
   outside of it, and nothing in it ends a line (`literal_reads_back`).
-/

namespace Stencil.Codegen

open Text

/-! ## parts of a literal -/

/-- In a literal, the characters `part` stand for `c`. -/
def StandsFor (part : List Char) (c : Char) : Prop :=
  ∀ rest, readCooked? .text (part ++ rest) =
    (readCooked? .text rest).map fun (value, rest) => (c :: value, rest)

theorem standsFor_plain {c : Char} (hquote : c ≠ '"') (hslash : c ≠ '\\') (hreturn : c ≠ '\r') :
    StandsFor [c] c := by
  intro rest
  rw [List.singleton_append, readCooked?.eq_def]
  split
  · next h => cases h
  · next h => exact absurd (List.cons.inj h).1 hquote
  · next h => exact absurd (List.cons.inj h).1 hreturn
  · next h => exact absurd (List.cons.inj h).1 hreturn
  · next h => exact absurd (List.cons.inj h).1 hslash
  · next h =>
    obtain ⟨rfl, rfl⟩ := List.cons.inj h
    rfl

/-- An escape that does not hide a line break. -/
theorem standsFor_escape {d c : Char} {ds : List Char} (hbreak : d ≠ '\n' ∧ d ≠ '\r')
    (h : ∀ rest, escape? .text (d :: ds ++ rest) = some (c, ds.length + 1)) :
    StandsFor ('\\' :: d :: ds) c := by
  intro rest
  have hescape := h rest
  rw [List.cons_append, List.cons_append, readCooked?]
  rw [List.cons_append] at hescape
  simp [hbreak.1, hbreak.2, hescape]

/-- The code point of a character in braces. -/
theorem bracedCodePoint?_hexDigits (c : Char) (rest : List Char) :
    bracedCodePoint? ('\x7b' :: (hexDigits c ++ '\x7d' :: rest)) =
      some (c, (hexDigits c).length + 2) := by
  have hnumber : hexNumber? (hexDigits c) = some c.toNat := hexNumber?_toDigits c.toNat
  have hdigits := isDigit_of_foldlM hnumber
  have hgap : '_' ∉ hexDigits c := fun h => hdigits _ h (by decide)
  have hcut := cutAt?_singleton (fun h : '\x7d' ∈ hexDigits c => hdigits _ h (by decide)) rest
  have hfilter : (hexDigits c).filter (· != '_') = hexDigits c := by
    refine List.filter_eq_self.2 fun d hd => bne_iff_ne.2 ?_
    rintro rfl
    exact hgap hd
  have hhead : (hexDigits c).head? ≠ some '_' := fun h => hgap (List.mem_of_head? h)
  have hne : hexDigits c ≠ [] := Nat.toDigits_ne_nil
  have hlen := Nat.not_lt.2 (length_hexDigits_le c)
  rw [bracedCodePoint?, hcut, Option.bind_eq_bind, Option.bind_some]
  simp only [hfilter, beq_eq_false_iff_ne.2 hhead, List.isEmpty_eq_false_iff.2 hne,
    decide_eq_false hlen, hnumber, Bool.or_self, Bool.false_eq_true, if_false]
  rw [Option.bind_eq_bind, Option.bind_some, charOf?_toNat]
  rfl

theorem standsFor_codePoint (c : Char) : StandsFor (codePoint c) c := by
  have hspelling : codePoint c = '\\' :: 'u' :: ('\x7b' :: (hexDigits c ++ ['\x7d'])) := rfl
  rw [hspelling]
  refine standsFor_escape (by decide) fun rest => ?_
  have hbraced := bracedCodePoint?_hexDigits c rest
  simp [escape?, hbraced]

/-- A letter, a quote or the backslash after a backslash. -/
theorem standsFor_letter {d c : Char} (h : (d, c) ∈ [('n', '\n'), ('r', '\r'), ('t', '\t'),
    ('0', '\x00'), ('\\', '\\'), ('"', '"')]) : StandsFor ['\\', d] c := by
  have hbreak : ∀ entry ∈ [('n', '\n'), ('r', '\r'), ('t', '\t'), ('0', '\x00'), ('\\', '\\'),
      ('"', '"')], entry.1 ≠ '\n' ∧ entry.1 ≠ '\r' := by decide
  refine standsFor_escape (hbreak _ h) fun rest => ?_
  simp only [List.mem_cons, Prod.mk.injEq, List.not_mem_nil, or_false] at h
  rcases h with ⟨rfl, rfl⟩ | ⟨rfl, rfl⟩ | ⟨rfl, rfl⟩ | ⟨rfl, rfl⟩ | ⟨rfl, rfl⟩ | ⟨rfl, rfl⟩ <;> rfl

/-! ## literals in a body -/

theorem standsFor_literalChar (c : Char) : StandsFor (literalChar c) c := by
  unfold literalChar
  split
  · next h =>
    have hc : c = '"' ∨ c = '\\' := by simpa using h
    rcases hc with rfl | rfl <;> exact standsFor_letter (by decide)
  · next hspecial =>
    have hc : c ≠ '"' ∧ c ≠ '\\' := by simpa using hspecial
    split
    · next h =>
      obtain rfl : c = '\r' := by simpa using h
      exact standsFor_letter (by decide)
    · next hreturn =>
      have hr : c ≠ '\r' := by simpa using hreturn
      split
      · next h =>
        obtain rfl : c = '\n' := by simpa using h
        exact standsFor_letter (by decide)
      · split
        · exact standsFor_codePoint c
        · exact standsFor_plain hc.1 hc.2 hr

/-- The characters of a literal are read as those of the text, up to the quote that
closes it. -/
theorem readCooked?_literalChars (cs rest : List Char) :
    readCooked? .text (cs.flatMap literalChar ++ '"' :: rest) = some (cs, rest) := by
  induction cs with
  | nil => rw [List.flatMap_nil, List.nil_append, readCooked?]
  | cons c cs ih =>
    rw [List.flatMap_cons, List.append_assoc, standsFor_literalChar, ih]
    rfl

theorem toList_literal (s : String) :
    (literal s).toList = '"' :: (s.toList.flatMap literalChar ++ ['"']) := by
  rw [literal, String.toList_ofList, List.cons_append]

/-- The characters that end a line in some code or other. -/
def lineBreaks : List Char := ['\r', '\n', '\u2028', '\u2029']

/-- The digits of a code point end no line. -/
theorem not_mem_codePoint {b : Char} (hb : b ∈ lineBreaks) (c : Char) : b ∉ codePoint c := by
  have hfixed : ∀ b ∈ lineBreaks, hexValue? b = none ∧ b ∉ ['\\', 'u', '\x7b', '\x7d'] :=
    forall_mem_of_all (by decide)
  obtain ⟨hvalue, hmark⟩ := hfixed b hb
  have hdigit : b ∉ hexDigits c := fun h =>
    isDigit_of_foldlM (hexNumber?_toDigits c.toNat) b h hvalue
  simp only [List.mem_cons, not_or, List.not_mem_nil, not_false_eq_true, and_true] at hmark
  simp [codePoint, hmark, hdigit]

theorem not_mem_literalChar {b : Char} (hb : b ∈ lineBreaks) (c : Char) : b ∉ literalChar c := by
  have hfixed : ∀ b ∈ lineBreaks, b ≠ '"' ∧ b ≠ '\\' ∧ b ≠ 'r' ∧ b ≠ 'n' :=
    forall_mem_of_all (by decide)
  obtain ⟨hquote, hslash, hr, hn⟩ := hfixed b hb
  unfold literalChar
  split
  · next h =>
    have hc : c = '"' ∨ c = '\\' := by simpa using h
    rcases hc with rfl | rfl <;> simp [hquote, hslash]
  · split
    · simp [hslash, hr]
    · next hreturn =>
      split
      · simp [hslash, hn]
      · next hfeed =>
        split
        · exact not_mem_codePoint hb c
        · next hseparator =>
          rw [List.mem_singleton]
          rintro rfl
          simp_all [lineBreaks]

/-- A literal keeps to one line. -/
theorem not_mem_literal {b : Char} (hb : b ∈ lineBreaks) (s : String) : b ∉ (literal s).toList := by
  have hquote : ∀ b ∈ lineBreaks, b ≠ '"' := forall_mem_of_all (by decide)
  rw [toList_literal, List.mem_cons, List.mem_append, List.mem_singleton]
  rintro (h | h | h)
  · exact hquote b hb h
  · obtain ⟨c, -, hc⟩ := List.mem_flatMap.1 h
    exact not_mem_literalChar hb c hc
  · exact hquote b hb h

/-- The text that a literal at the front of code stands for, and what follows the literal. -/
def readLiteral? (code : String) : Option (String × String) :=
  match code.toList with
  | '"' :: cs =>
    (readCooked? .text cs).map fun (value, rest) => (String.ofList value, String.ofList rest)
  | _ => none

/-- A literal is read up to its last quote. -/
theorem readLiteral?_literal (s t : String) : readLiteral? (literal s ++ t) = some (s, t) := by
  have hcode : (literal s ++ t).toList =
      '"' :: (s.toList.flatMap literalChar ++ '"' :: t.toList) := by
    simp [toList_literal]
  simp only [readLiteral?, hcode, readCooked?_literalChars, Option.map_some, String.ofList_toList]

/-- **Literals are read back.** Whatever follows a literal, it is read up to its last
quote and stands for the text that it was written for; and no line ends in it. -/
theorem literal_reads_back (s t : String) :
    readLiteral? (literal s ++ t) = some (s, t) ∧ ∀ b ∈ lineBreaks, b ∉ (literal s).toList :=
  ⟨readLiteral?_literal s t, fun _ hb => not_mem_literal hb s⟩

/-! ## literals in which every character can be seen -/

theorem standsFor_quotedChar (c : Char) : StandsFor (quotedChar '"' c) c := by
  unfold quotedChar
  split
  · next h =>
    obtain rfl : c = '\x00' := by simpa using h
    exact standsFor_letter (by decide)
  split
  · next h =>
    obtain rfl : c = '\t' := by simpa using h
    exact standsFor_letter (by decide)
  split
  · next h =>
    obtain rfl : c = '\r' := by simpa using h
    exact standsFor_letter (by decide)
  split
  · next h =>
    obtain rfl : c = '\n' := by simpa using h
    exact standsFor_letter (by decide)
  split
  · next h =>
    have hc : c = '\\' ∨ c = '"' := by simpa using h
    rcases hc with rfl | rfl <;> exact standsFor_letter (by decide)
  split
  · exact standsFor_codePoint c
  · next hreturn _ hspecial _ =>
    have hc : c ≠ '\\' ∧ c ≠ '"' := by simpa using hspecial
    exact standsFor_plain hc.2 hc.1 (by simpa using hreturn)

/-- A null written in full. -/
theorem standsFor_null : StandsFor ['\\', 'x', '0', '0'] '\x00' :=
  standsFor_escape (by decide) fun _ => rfl

/-- The characters of such a literal are read as those of the text, up to the quote that
closes it. -/
theorem readCooked?_shownChars (cs rest : List Char) :
    readCooked? .text (shownChars cs ++ '"' :: rest) = some (cs, rest) := by
  induction cs with
  | nil => rw [shownChars, List.nil_append, readCooked?]
  | cons c cs ih =>
    have hc : StandsFor (if c == '\x00' && cs.head?.any fun d => '0' ≤ d && d ≤ '7'
        then ['\\', 'x', '0', '0'] else quotedChar '"' c) c := by
      split
      · next h =>
        obtain ⟨rfl, -⟩ : c = '\x00' ∧ _ := by simpa using h
        exact standsFor_null
      · exact standsFor_quotedChar c
    rw [shownChars, List.append_assoc, hc, ih]
    rfl

theorem toList_shownLiteral (s : String) :
    (shownLiteral s).toList = '"' :: (shownChars s.toList ++ ['"']) := by
  rw [shownLiteral, String.toList_ofList, List.cons_append]

theorem readLiteral?_shownLiteral (s t : String) :
    readLiteral? (shownLiteral s ++ t) = some (s, t) := by
  have hcode : (shownLiteral s ++ t).toList = '"' :: (shownChars s.toList ++ '"' :: t.toList) := by
    simp [toList_shownLiteral]
  simp only [readLiteral?, hcode, readCooked?_shownChars, Option.map_some, String.ofList_toList]

end Stencil.Codegen
