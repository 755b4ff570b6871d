import Stencil.Include
import Stencil.Proofs.Script.Inlining
import Stencil.Proofs.Script.Prepared
import Stencil.Proofs.Script.QuotedRegions
import Stencil.Proofs.Template.Printing
import Stencil.Proofs.Text.Hex

/-!
# Stencil.Proofs.Script.StringMarker

Markers that write a string. A string in quotes goes through the search for the end
of its marker, which reads octets, and through the lexer, which reads characters and
decodes escapes, before it is written. `Spells` says how a character may be written
in a string, with no reference to how any of these reads it.

1. What is written so is what the lexer reads (`spelled_of_spells`).
2. The search passes over a string: nothing in it ends the marker, not even the
   delimiter itself (`closed_string`).
3. So the marker is read as the one value, and writes it (`string_renders_itself`).
-/

namespace Stencil.Script

open Text
open Parse
open Scan (utf8_closing_ne)
open Quotation (BareAt bareAt_iff after_append_of_outside after_append_of_bare after_region
  mem_of_after_eq_outside)

/-! ## digits -/

/-- Digits to the base sixteen, in either case, and the number that they stand for. -/
inductive Hexadecimal : List Char → Nat → Prop where
  | nil : Hexadecimal [] 0
  | digit {ds : List Char} {n : Nat} {d : Char} (k : Nat) : Hexadecimal ds n → k < 16 →
    d = k.digitChar ∨ d = k.digitChar.toUpper → Hexadecimal (ds ++ [d]) (16 * n + k)

theorem Hexadecimal.hexNumber? {ds : List Char} {n : Nat} (h : Hexadecimal ds n) :
    Text.hexNumber? ds = some n := by
  induction h with
  | nil => rfl
  | @digit ds n d k hds hk hd ih =>
    have hvalue : hexValue? d = some k := by
      rcases hd with rfl | rfl
      · exact (hexValue?_digitChar k hk).1
      · exact (hexValue?_digitChar k hk).2
    rw [Text.hexNumber?] at ih ⊢
    simp [List.foldlM_append, ih, hvalue]

theorem Hexadecimal.codePoint? {ds : List Char} {n : Nat} (h : Hexadecimal ds n)
    (hne : ds ≠ []) : codePoint? ds = some n := by
  have hnumber := h.hexNumber?
  have hdigits := isDigit_of_foldlM hnumber
  unfold Script.codePoint?
  dsimp only
  split
  · next ds =>
    exact absurd rfl (hdigits '+' (by simp))
  · rw [if_neg (by simpa using hne), hnumber]

/-! ## spelling -/

/-- The ways to write a character between two characters `quote`. -/
inductive Spells (quote : Char) : List Char → Char → Prop where
  | raw {c : Char} : c ≠ quote → c ≠ '\\' → Spells quote [c] c
  | lineFeed : Spells quote ['\\', 'n'] '\n'
  | carriageReturn : Spells quote ['\\', 'r'] '\r'
  | tab : Spells quote ['\\', 't'] '\t'
  | null : Spells quote ['\\', '0'] '\x00'
  /-- Any other character stands for itself, quotes and the backslash among them. -/
  | itself {c : Char} : c ∉ ['n', 'r', 't', '0', 'u'] → Spells quote ['\\', c] c
  | four {ds : List Char} {c : Char} : ds.length = 4 → Hexadecimal ds c.toNat →
    Spells quote ('\\' :: 'u' :: ds) c
  | braced {ds : List Char} {c : Char} : ds ≠ [] → Hexadecimal ds c.toNat →
    Spells quote ('\\' :: 'u' :: '\x7b' :: ds ++ ['\x7d']) c

/-- A character in front of a string. -/
theorem Spells.spelled {quote c : Char} {part body value : List Char} (h : Spells quote part c)
    (hbody : Spelled quote body value) : Spelled quote (part ++ body) (c :: value) := by
  cases h with
  | raw hquote hslash => exact .plain hslash hquote hbody
  | lineFeed => exact .hidden (by decide) hbody
  | carriageReturn => exact .hidden (by decide) hbody
  | tab => exact .hidden (by decide) hbody
  | null => exact .hidden (by decide) hbody
  | itself hc =>
    have hself : escapedChar c = c := by
      unfold escapedChar
      split <;> simp_all
    have hhidden : Spelled quote ('\\' :: c :: body) (escapedChar c :: value) :=
      .hidden (by simp_all) hbody
    rwa [hself] at hhidden
  | four hlen hds =>
    have hne : ∀ ds : List Char, ds.length = 4 → ds ≠ [] := by
      rintro _ hlen rfl
      cases hlen
    exact .coded (.four hlen (hds.codePoint? (hne _ hlen)) (charOf?_toNat c)) hbody
  | @braced ds _ hne hds =>
    have hbraced : CodePoint ('\x7b' :: ds ++ ['\x7d']) c :=
      .braced (hds.codePoint? hne) (charOf?_toNat c)
    exact .coded hbraced hbody

/-- What is written character by character is what the lexer reads. -/
theorem spelled_of_spells {quote : Char} {parts : List (List Char)} {value : List Char}
    (h : List.Forall₂ (Spells quote) parts value) : Spelled quote parts.flatten value := by
  induction h with
  | nil => exact .nil
  | cons hpart hrest ih => exact hpart.spelled ih

/-! ## the end of the marker -/

section
variable {quote : Char} {body value : List Char} {d : Delimiters}

/-- The content of the marker: a string between two spaces. -/
def spaced (quote : Char) (body : List Char) : String :=
  String.ofList (' ' :: (quote :: body ++ [quote]) ++ [' '])

/-- The marker that writes a string. -/
def stringMarker (quote : Char) (body : List Char) : Node := .value (spaced quote body) false .none

theorem utf8_inner (hquote : isQuote quote = true) (body : List Char) :
    utf8 (stringMarker quote body).inner =
      [0x2D, 0x20] ++ (octetOf quote :: utf8Chars body ++ [octetOf quote]) ++ [0x20] := by
  have hdash : utf8 "-" = [0x2D] := by decide
  have hspace : utf8Chars [' '] = [0x20] := by decide
  have hoctet : utf8Chars [quote] = [octetOf quote] := by
    simp [utf8EncodeChar_of_ascii (ascii_of_isQuote hquote)]
  have hsign : utf8 Trim.none.sign = [] := by decide
  have hcontent : ' ' :: (quote :: body ++ [quote]) ++ [' '] =
      [' '] ++ [quote] ++ body ++ [quote] ++ [' '] := by simp
  rw [stringMarker, Node.inner, if_neg Bool.false_ne_true, spaced, utf8_append, utf8_append, hdash,
    utf8_ofList, hcontent, hsign]
  simp only [utf8Chars_append, hspace, hoctet]
  simp

/-- The signs around the string are read on the outside. -/
theorem after_signs : Quotation.after [0x2D, 0x20] = .outside := by decide

/-- The search for the end of the marker goes over the string to the end. -/
theorem closed_string (hspelled : Spelled quote body value) (hquote : isQuote quote = true)
    (hclosing : ∀ x ∈ d.closing.toList, isQuote x = false ∧ x ≠ '-' ∧ x ≠ ' ') :
    (stringMarker quote body).Closed d := by
  have hpasses := hspelled.passes hquote
  have hoctet := isQuote_octetOf hquote
  have hne : ∀ b ∈ utf8 d.closing, b ≠ 0x2D ∧ b ≠ 0x20 := by
    intro b hb
    obtain ⟨x, hx, hmem⟩ := List.mem_flatMap.1 hb
    obtain ⟨-, hdash, hspace⟩ := hclosing x hx
    exact ⟨ne_of_mem_utf8EncodeChar (d := '-') (by decide) hdash b hmem,
      ne_of_mem_utf8EncodeChar (d := ' ') (by decide) hspace b hmem⟩
  constructor
  · have hregion : Quotation.after ([0x2D, 0x20] ++
        (octetOf quote :: utf8Chars body ++ [octetOf quote])) = .outside := by
      rw [after_append_of_outside after_signs, after_region hoctet hpasses]
    rw [utf8_inner hquote]
    exact after_append_of_bare hregion (List.forall_mem_singleton.2 (by decide))
  · intro i hi
    obtain ⟨before, rest, hsplit, -, hbefore, hunquoted⟩ := (bareAt_iff (utf8_closing_ne d)).1 hi
    obtain ⟨b, bs, hpat⟩ := List.exists_cons_of_ne_nil (utf8_closing_ne d)
    have hb : b ∈ utf8 d.closing := by simp [hpat]
    have hcut : before ++ (b :: bs) ++ rest = before ++ b :: (bs ++ rest) := by simp
    rw [utf8_inner hquote, hpat, hcut] at hsplit
    rcases mem_of_after_eq_outside hoctet hpasses after_signs hsplit hbefore (hunquoted b hb)
      with hmem | hmem
    · have hcases : b = 0x2D ∨ b = 0x20 := by simpa using hmem
      exact hcases.elim (hne b hb).1 (hne b hb).2
    · exact (hne b hb).2 (List.mem_singleton.1 hmem)
  · intro b hb hmem
    rw [utf8_inner hquote, List.getLast?_concat] at hb
    exact (hne b hmem).2 (Option.some.inj hb).symm

/-- The template that is the marker alone is read as it. -/
theorem printable_string (hspelled : Spelled quote body value) (hquote : isQuote quote = true)
    (hopening : d.opening.toList.head? ≠ some '\uFEFF')
    (hclosing : ∀ x ∈ d.closing.toList, isQuote x = false ∧ x ≠ '-' ∧ x ≠ ' ') :
    Printable d [stringMarker quote body] where
  closed node hnode _ := by
    rw [List.mem_singleton.1 hnode]
    exact closed_string hspelled hquote hclosing
  signed node hnode := by
    rw [List.mem_singleton.1 hnode]
    have hspace : utf8Chars [' '] = [0x20] := by decide
    refine ⟨fun h => ?_, fun _ h => ?_⟩
    · have hlist := congrArg String.toList h
      simp [spaced] at hlist
    · rw [spaced, utf8_ofList, utf8Chars_append, hspace, List.getLast?_concat] at h
      cases h
  follows := List.isChain_singleton _
  final t ht := by cases ht
  unquoted b hb := by
    obtain ⟨x, hx, hmem⟩ := List.mem_flatMap.1 hb
    exact isQuote_of_mem_utf8EncodeChar (hclosing x hx).1 b hmem
  marked := ⟨_, List.mem_singleton_self _, rfl⟩
  front := by
    obtain ⟨x, xs, hx⟩ : ∃ x xs, d.opening.toList = x :: xs :=
      List.exists_cons_of_ne_nil fun h => d.opening_ne (String.toList_eq_nil_iff.1 h)
    rw [hx] at hopening
    simpa [Program.print, Node.print, stringMarker, hx] using hopening

end

/-! ## the value -/

/-- The content of the marker is read as the string that is spelled in it. -/
theorem parseValue_string {quote : Char} {body value : List Char} (hquote : isQuote quote = true)
    (hspelled : Spelled quote body value) :
    parseValue (spaced quote body) = .ok (.literal (.string (String.ofList value))) := by
  have hcode : (spaced quote body).toList = ' ' :: quote :: (body ++ quote :: [' ']) := by
    simp [spaced]
  have hlexed : Lexed (spaced quote body).toList
      [.space, ⟨quote :: body ++ [quote], some (.string (String.ofList value))⟩, .space] := by
    rw [hcode]
    exact lexed_space (.cons (lexeme_quoted hquote hspelled [' ']) (by simp) (lexed_space .nil))
  exact parseValue_eq_ok_iff.2 ⟨_, hlexed, reads_operand rfl .string (next_nil _)⟩

/-- **A string renders as itself.** However its characters are written between quotes,
a marker with the string in it writes them and nothing else: no delimiter, quote or
backslash in it is taken for the end of the string or of the marker. -/
theorem string_renders_itself {c : Compiler} {quote : Char} {s : String}
    {parts : List (List Char)} (hengine : c.engine = engine) (hquote : isQuote quote = true)
    (hopening : c.config.delimiters.opening.toList.head? ≠ some '\uFEFF')
    (hclosing : ∀ x ∈ c.config.delimiters.closing.toList, isQuote x = false ∧ x ≠ '-' ∧ x ≠ ' ')
    (hparts : List.Forall₂ (Spells quote) parts s.toList) :
    ∃ r, c.compile (c.config.delimiters.opening ++ "- " ++
        String.ofList (quote :: parts.flatten ++ [quote]) ++ " " ++
        c.config.delimiters.closing) = .ok r ∧
      ∀ {κ : Type} [TemplateCache κ] (files : Files) (depth : Nat) (data : Json)
        (cache : Option κ), r.render files depth data cache = (.done s, cache) := by
  have hspelled := spelled_of_spells hparts
  have htemplate : c.config.delimiters.opening ++ "- " ++
      String.ofList (quote :: parts.flatten ++ [quote]) ++ " " ++ c.config.delimiters.closing =
      Program.print c.config.delimiters [stringMarker quote parts.flatten] := by
    apply String.toList_inj.1
    simp [Program.print, Node.print, Node.inner, stringMarker, spaced, Trim.sign]
  have hbuild := Program.build?_print (printable_string hspelled hquote hopening hclosing)
  have hparse := parseValue_string hquote hspelled
  rw [String.ofList_toList] at hparse
  have hscript : ofProgram [stringMarker quote parts.flatten] =
      .ok ⟨[.emit 0], [.value (.literal (.string s)) false .none]⟩ :=
    ofProgram_eq_ok_iff.2 ⟨_, .value hparse .nil, .next .emit .done⟩
  refine ⟨_, by rw [htemplate]; exact Compiler.compile_of_ofProgram hengine hbuild hscript, ?_⟩
  intro κ _ files depth data cache
  have hrun : Tree.run ⟨[.emit 0], [.value (.literal (.string s)) false .none]⟩
      c.config.effectiveDataName data = .done ("" ++ s) := rfl
  rw [Renderer.render, Renderer.runWith, hrun, String.empty_append]
  rfl

/-- The closing delimiter, the quote and the backslash in a string, and five ways to write
a character. -/
theorem string_renders_itself_delimiter : ∃ (c : Compiler) (r : Renderer),
    c.compile "[[- \"]\\u005d\\\"\\\\'\\u\x7bE9\x7d\\n\" ]]" = .ok r ∧
      ∀ (files : Files) (depth : Nat) (data : Json) (cache : Option Cache),
        r.render files depth data cache = (.done "]]\"\\'é\n", cache) := by
  have hbracket : Hexadecimal ['0', '0', '5', 'd'] 0x5D :=
    .digit 13 (.digit 5 (.digit 0 (.digit 0 .nil (by decide) (.inl rfl)) (by decide) (.inl rfl))
      (by decide) (.inl rfl)) (by decide) (.inl rfl)
  have hletter : Hexadecimal ['E', '9'] 0xE9 :=
    .digit 9 (.digit 14 .nil (by decide) (.inr (by decide))) (by decide) (.inl rfl)
  have hbraced : Spells '"' ('\\' :: 'u' :: '\x7b' :: ['E', '9'] ++ ['\x7d']) 'é' :=
    .braced (by decide) hletter
  have hchars : "]]\"\\'é\n".toList = [']', ']', '"', '\\', '\'', 'é', '\n'] := by decide
  have hparts : List.Forall₂ (Spells '"') [[']'], ['\\', 'u', '0', '0', '5', 'd'], ['\\', '"'],
      ['\\', '\\'], ['\''], ['\\', 'u', '\x7b', 'E', '9', '\x7d'], ['\\', 'n']]
      "]]\"\\'é\n".toList := by
    rw [hchars]
    exact .cons (.raw (by decide) (by decide)) (.cons (.four rfl hbracket)
      (.cons (.itself (by decide)) (.cons (.itself (by decide))
        (.cons (.raw (by decide) (by decide)) (.cons hbraced (.cons .lineFeed .nil))))))
  let c : Compiler := ⟨.standard, engine, true⟩
  have hengine : c.engine = engine := rfl
  have hclosing : ∀ x ∈ c.config.delimiters.closing.toList,
      isQuote x = false ∧ x ≠ '-' ∧ x ≠ ' ' := by
    have hbrackets : c.config.delimiters.closing.toList = [']', ']'] := by decide
    rw [hbrackets, List.forall_mem_cons, List.forall_mem_singleton]
    decide
  obtain ⟨r, hcompile, hrender⟩ := string_renders_itself hengine rfl (by decide) hclosing hparts
  exact ⟨c, r, hcompile, hrender⟩

end Stencil.Script
