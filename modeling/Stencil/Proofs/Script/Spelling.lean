import Stencil.Proofs.Results
import Stencil.Proofs.Text.Find
import Stencil.Proofs.Text.Hex
import Stencil.Proofs.Text.Utf8
import Stencil.Script.StringLiteral

/-!
# Stencil.Proofs.Script.Spelling

How strings are spelled. `Spelled` has one rule for each way to write a character
between two quotes: as it is, after a backslash, or by its code point. What the
reader of strings accepts is what the rules make, up to the first quote that they
do not hide: `readString_eq_ok_iff`.

A code point is written with digits, which are neither quotes nor backslashes
(`CodePoint.plain`), so what follows `\u` hides no closing quote. Where fewer
characters are left than it asks for, these are digits too, and the string is
not closed (`unicodeEscape?_eq_some`).
-/

namespace Stencil.Script

open Text

/-! ## code points -/

/-- A character that has no meaning of its own in any string. -/
def Plain (c : Char) : Prop := c ≠ '\\' ∧ isQuote c = false

/-- A character that a number may be written with. -/
def IsDigit (c : Char) : Prop := c = '+' ∨ hexValue? c ≠ none

/-- What follows `\u` where the character `c` is meant. -/
inductive CodePoint : List Char → Char → Prop where
  | four {digits : List Char} {n : Nat} {c : Char} :
    digits.length = 4 → codePoint? digits = some n → charOf? n = some c → CodePoint digits c
  | braced {digits : List Char} {n : Nat} {c : Char} :
    codePoint? digits = some n → charOf? n = some c →
    CodePoint ('\x7b' :: digits ++ ['\x7d']) c

/-- The number of a character is written in digits. -/
theorem isDigit_of_codePoint? {ds : List Char} {n : Nat} (h : codePoint? ds = some n) :
    ∀ c ∈ ds, IsDigit c := by
  intro c hc
  unfold codePoint? at h
  dsimp only at h
  split at h
  · next digits =>
    split at h
    · cases h
    · rcases List.mem_cons.1 hc with rfl | hc
      · exact .inl rfl
      · exact .inr (isDigit_of_foldlM h c hc)
  · split at h
    · cases h
    · exact .inr (isDigit_of_foldlM h c hc)

theorem hexValue?_bounds {c : Char} (h : hexValue? c ≠ none) :
    '0' ≤ c ∧ c ≤ 'f' ∧ c ≠ '\\' ∧ c ≠ '\x60' := by
  unfold hexValue? at h
  split at h
  · next hc =>
    refine ⟨hc.1, Char.le_trans hc.2 (by decide), ?_, ?_⟩ <;> rintro rfl <;> revert hc <;> decide
  split at h
  · next hc =>
    refine ⟨Char.le_trans (by decide) hc.1, hc.2, ?_, ?_⟩ <;> rintro rfl <;> revert hc <;> decide
  split at h
  · next hc =>
    refine ⟨Char.le_trans (by decide) hc.1, Char.le_trans hc.2 (by decide), ?_, ?_⟩ <;>
      rintro rfl <;> revert hc <;> decide
  · contradiction

namespace IsDigit

variable {c : Char}

theorem plain (h : IsDigit c) : Plain c := by
  rcases h with rfl | h
  · exact ⟨by decide, by decide⟩
  · obtain ⟨hzero, -, hslash, hback⟩ := hexValue?_bounds h
    have hdouble : c ≠ '"' := by
      rintro rfl
      exact absurd hzero (by decide)
    have hsingle : c ≠ '\'' := by
      rintro rfl
      exact absurd hzero (by decide)
    exact ⟨hslash, by simp [isQuote, hdouble, hsingle, hback]⟩

theorem utf8Size (h : IsDigit c) : c.utf8Size = 1 := by
  rcases h with rfl | h
  · decide
  · have hle : c.val.toNat ≤ 'f'.val.toNat := (hexValue?_bounds h).2.1
    exact Char.utf8Size_eq_one_iff.2 (Nat.le_trans hle (by decide))

theorem ne_brace (h : IsDigit c) : c ≠ '\x7b' ∧ c ≠ '\x7d' := by
  constructor <;> rintro rfl <;> exact absurd h (by simp [IsDigit]; decide)

theorem octets {ds : List Char} (h : ∀ c ∈ ds, IsDigit c) : Text.octets ds = ds.length := by
  induction ds with
  | nil => rfl
  | cons d ds ih =>
    rw [octets_cons, (h d (by simp)).utf8Size, ih fun c hc => h c (by simp [hc]),
      List.length_cons, Nat.add_comm]

end IsDigit

/-- A code point hides no quote. -/
theorem CodePoint.plain {esc : List Char} {c : Char} (h : CodePoint esc c) :
    ∀ x ∈ esc, Plain x := by
  intro x hx
  cases h with
  | four hlen hn hc => exact (isDigit_of_codePoint? hn x hx).plain
  | @braced digits n c hn hc =>
    have hmem : x = '\x7b' ∨ x ∈ digits ∨ x = '\x7d' := by simpa using hx
    rcases hmem with rfl | hx | rfl
    · exact ⟨by decide, by decide⟩
    · exact (isDigit_of_codePoint? hn x hx).plain
    · exact ⟨by decide, by decide⟩

theorem cutAt?_brace {digits : List Char} (h : ∀ c ∈ digits, IsDigit c) (rest : List Char) :
    cutAt? ['\x7d'] (digits ++ '\x7d' :: rest) = some (digits, rest) :=
  cutAt?_singleton (fun hmem => (h _ hmem).ne_brace.2 rfl) rest

/-- Without braces the digits are four octets, or all that is left. -/
theorem unicodeEscape?_of_ne_brace {cs : List Char} (h : cs.head? ≠ some '\x7b') :
    unicodeEscape? cs = do
      let n ← codePoint? ((takeOctets? 4 cs).getD cs)
      let c ← charOf? n
      return (c, 4) := by
  unfold unicodeEscape?
  dsimp only
  split
  · next rest => exact absurd rfl h
  · rfl

/-- An escape is read up to its end, whatever follows. -/
theorem unicodeEscape?_append {esc : List Char} {c : Char} (h : CodePoint esc c)
    (rest : List Char) : unicodeEscape? (esc ++ rest) = some (c, esc.length) := by
  cases h with
  | four hlen hn hc =>
    have hdigits := isDigit_of_codePoint? hn
    have htake : takeOctets? 4 (esc ++ rest) = some esc := by
      refine takeOctets?_eq_some_iff.2 ⟨?_, List.prefix_append esc rest⟩
      rw [IsDigit.octets hdigits, hlen]
    have hbrace : (esc ++ rest).head? ≠ some '\x7b' := by
      cases esc with
      | nil => cases hlen
      | cons d ds =>
        intro hd
        exact (hdigits d (by simp)).ne_brace.1 (Option.some.inj hd)
    rw [unicodeEscape?_of_ne_brace hbrace, htake, hlen]
    simp [hn, hc]
  | @braced digits n c hn hc =>
    rw [List.append_assoc, List.cons_append, List.singleton_append]
    simp [unicodeEscape?, cutAt?_brace (isDigit_of_codePoint? hn), hn, hc]

/-- What an escape was read from. -/
theorem unicodeEscape?_eq_some {cs : List Char} {c : Char} {n : Nat}
    (h : unicodeEscape? cs = some (c, n)) :
    (∃ esc rest, cs = esc ++ rest ∧ n = esc.length ∧ CodePoint esc c) ∨
      cs.length < n ∧ ∀ x ∈ cs, IsDigit x := by
  by_cases hbrace : cs.head? = some '\x7b'
  · left
    obtain ⟨cs, rfl⟩ := List.head?_eq_some_iff.1 hbrace
    cases hcut : cutAt? ['\x7d'] cs with
    | none => simp [unicodeEscape?, hcut] at h
    | some p =>
      obtain ⟨digits, rest⟩ := p
      obtain ⟨k, hk, hrest⟩ : ∃ k, codePoint? digits = some k ∧
          (charOf? k).map (fun d => (d, digits.length + 2)) = some (c, n) := by
        simpa [unicodeEscape?, hcut, Option.bind_eq_some_iff] using h
      obtain ⟨d, hd, heq⟩ := Option.map_eq_some_iff.1 hrest
      obtain ⟨rfl, rfl⟩ : d = c ∧ digits.length + 2 = n := by simpa using heq
      refine ⟨'\x7b' :: digits ++ ['\x7d'], rest, ?_, by simp, .braced hk hd⟩
      rw [eq_append_of_cutAt? hcut]
      simp
  · rw [unicodeEscape?_of_ne_brace hbrace] at h
    obtain ⟨k, hk, h⟩ := Option.bind_eq_some_iff.1 h
    obtain ⟨d, hd, h⟩ := Option.bind_eq_some_iff.1 h
    obtain ⟨rfl, rfl⟩ : d = c ∧ 4 = n := by simpa using h
    have hdigits := isDigit_of_codePoint? hk
    cases htake : takeOctets? 4 cs with
    | some front =>
      rw [htake, Option.getD_some] at hk hdigits
      obtain ⟨hoctets, rest, rfl⟩ := takeOctets?_eq_some_iff.1 htake
      rw [IsDigit.octets hdigits] at hoctets
      exact .inl ⟨front, rest, rfl, hoctets.symm, .four hoctets hk hd⟩
    | none =>
      rw [htake, Option.getD_none] at hdigits
      refine .inr ⟨Nat.lt_of_not_le fun hle => ?_, hdigits⟩
      have hsome : takeOctets? 4 cs = some (cs.take 4) := by
        refine takeOctets?_eq_some_iff.2 ⟨?_, List.take_prefix 4 cs⟩
        rw [IsDigit.octets fun x hx => hdigits x (List.mem_of_mem_take hx),
          List.length_take_of_le hle]
      rw [htake] at hsome
      cases hsome

/-! ## strings -/

/-- The characters between two quotes, and the ones that they stand for. -/
inductive Spelled (quote : Char) : List Char → List Char → Prop where
  | nil : Spelled quote [] []
  | plain {c : Char} {body value : List Char} : c ≠ '\\' → c ≠ quote →
    Spelled quote body value → Spelled quote (c :: body) (c :: value)
  | hidden {c : Char} {body value : List Char} : c ≠ 'u' →
    Spelled quote body value → Spelled quote ('\\' :: c :: body) (escapedChar c :: value)
  | coded {esc body value : List Char} {c : Char} : CodePoint esc c →
    Spelled quote body value → Spelled quote ('\\' :: 'u' :: (esc ++ body)) (c :: value)

/-- A spelled string is read as what it is spelled for. -/
theorem readString_of_spelled {quote : Char} {body value : List Char} (hquote : quote ≠ '\\')
    (h : Spelled quote body value) (rest : List Char) :
    readString quote (body ++ quote :: rest) = .ok (value, rest) := by
  induction h with
  | nil =>
    rw [List.nil_append, readString]
    · simp
    all_goals simp [hquote]
  | @plain c body value hslash hc h ih =>
    rw [List.cons_append, readString]
    · simp [hc, ih, Except.map]
    all_goals simp [hslash]
  | @hidden c body value hc h ih =>
    rw [List.cons_append, List.cons_append, readString, ih]
    · rfl
    · simpa using hc
  | @coded esc body value c hesc h ih =>
    rw [List.cons_append, List.cons_append, List.append_assoc, readString,
      unicodeEscape?_append hesc]
    simp [ih, Except.map]

/-- A string is what is spelled up to a quote. -/
theorem readString_eq_ok_iff {quote : Char} (hquote : quote ≠ '\\') {cs value rest : List Char} :
    readString quote cs = .ok (value, rest) ↔
      ∃ body, cs = body ++ quote :: rest ∧ Spelled quote body value := by
  constructor
  · intro h
    fun_induction readString quote cs generalizing value rest with
    | case1 => cases h
    | case2 => cases h
    | case3 => cases h
    | case4 cs c n hc ih =>
      obtain ⟨⟨value', rest'⟩, hread, heq⟩ := Except.map_eq_ok_iff.1 h
      obtain ⟨rfl, rfl⟩ : c :: value' = value ∧ rest' = rest := by simpa using heq
      obtain ⟨body, hbody, hspelled⟩ := ih hread
      rcases unicodeEscape?_eq_some hc with ⟨esc, after, rfl, rfl, hesc⟩ | ⟨hlt, -⟩
      · rw [List.drop_left] at hbody
        subst hbody
        exact ⟨'\\' :: 'u' :: (esc ++ body), by simp, .coded hesc hspelled⟩
      · rw [List.drop_eq_nil_of_le (by omega)] at hbody
        exact absurd hbody (by simp)
    | case5 c cs hc ih =>
      obtain ⟨⟨value', rest'⟩, hread, heq⟩ := Except.map_eq_ok_iff.1 h
      obtain ⟨rfl, rfl⟩ : escapedChar c :: value' = value ∧ rest' = rest := by simpa using heq
      obtain ⟨body, rfl, hspelled⟩ := ih hread
      exact ⟨'\\' :: c :: body, rfl, .hidden (by simpa using hc) hspelled⟩
    | case6 c cs _ _ _ hc =>
      obtain ⟨rfl, rfl⟩ : [] = value ∧ cs = rest := by simpa using h
      obtain rfl : c = quote := by simpa using hc
      exact ⟨[], rfl, .nil⟩
    | case7 c cs hend _ hmore hc ih =>
      obtain ⟨⟨value', rest'⟩, hread, heq⟩ := Except.map_eq_ok_iff.1 h
      obtain ⟨rfl, rfl⟩ : c :: value' = value ∧ rest' = rest := by simpa using heq
      obtain ⟨body, rfl, hspelled⟩ := ih hread
      have hslash : c ≠ '\\' := by
        rintro rfl
        cases body with
        | nil => exact hmore quote rest' rfl rfl
        | cons d body => exact hmore d (body ++ quote :: rest') rfl rfl
      exact ⟨c :: body, rfl, .plain hslash (by simpa using hc) hspelled⟩
  · rintro ⟨body, rfl, hspelled⟩
    exact readString_of_spelled hquote hspelled rest

end Stencil.Script
