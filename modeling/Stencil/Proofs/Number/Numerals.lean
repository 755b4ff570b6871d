import Stencil.Proofs.Number.Integers
import Stencil.Proofs.Text.Trim

/-!
# Stencil.Proofs.Number.Numerals

Which integer a number is found to be. An integer that is too large for the format
binary64 may be rounded, but never to one of less than 54 bits; so where a number of the
format is an integer below 2^53, it was made of that integer (`toInt?_ofInt_eq_iff`).

The same holds of decimal numerals in a text: below 2^53 the numeral of an integer counts
as that integer and as no other one (`toInt?_toNumber_toString`).
-/

namespace Stencil.Binary64

/-! ## large integers -/

@[simp] theorem natAbs_signed (negative : Bool) (n : Nat) : (signed negative n).natAbs = n := by
  cases negative <;> simp [signed]

theorem div_le_roundDiv (num den : Nat) : num / den ≤ Number.roundDiv num den := by
  rw [Number.roundDiv]
  split
  · exact Nat.le_refl _
  · split
    · omega
    · split <;> omega

/-- A significand of 53 bits whose last one counts at least two makes no small integer. -/
theorem le_natAbs_of_normalise {negative : Bool} {m : Nat} {e j : Int} (hm : Nat.pow 2 52 ≤ m)
    (he : 1 ≤ e) (h : (normalise negative m e).toInt? = some j) :
    Nat.pow 2 precision ≤ j.natAbs := by
  have hvalue : ∀ {m : Nat} {e : Int}, Nat.pow 2 52 ≤ m → 1 ≤ e →
      (if maxExponent < e then inf negative else finite negative m e).toInt? = some j →
        Nat.pow 2 precision ≤ j.natAbs := by
    intro m e hm he h
    split at h
    · cases h
    · rw [toInt?, if_pos (by omega)] at h
      cases h
      have hpow : 2 ^ 1 ≤ 2 ^ e.toNat := Nat.pow_le_pow_right (by decide) (by omega)
      calc Nat.pow 2 precision = Nat.pow 2 52 * 2 ^ 1 := by decide
        _ ≤ m * 2 ^ e.toNat := Nat.mul_le_mul hm hpow
        _ = (signed negative (m * Nat.pow 2 e.toNat)).natAbs := by rw [natAbs_signed, Nat.pow_eq]
  rw [normalise] at h
  split at h
  next m' e' heq =>
    split at heq
    · cases heq
      exact hvalue (by decide) (by omega) h
    · cases heq
      exact hvalue hm he h

/-- An integer of more than 53 bits is not rounded to one of fewer. -/
theorem le_natAbs_of_toInt?_ofInt {i j : Int}
    (hi : Nat.pow 2 precision ≤ i.natAbs) (h : (ofInt i).toInt? = some j) :
    Nat.pow 2 precision ≤ j.natAbs := by
  generalize hn : i.natAbs = n at hi
  rw [Nat.pow_eq, precision] at hi
  have hne : n ≠ 0 := by omega
  have hself : 2 ^ n.log2 ≤ n := Nat.log2_self_le hne
  have hbits : 53 ≤ n.log2 := (Nat.le_log2 hne).2 hi
  have hunit : unitExponent n 1 = (n.log2 : Int) - 52 := by
    rw [unitExponent, floorLog2_one hne, minExponent, precision]
    omega
  have hunits : inUnits n 1 ((n.log2 : Int) - 52) = (n, 2 ^ (n.log2 - 52)) := by
    rw [inUnits, if_pos (by omega), Nat.one_mul, Nat.pow_eq]
    congr 2
    omega
  have hfull : Nat.pow 2 52 ≤ Number.roundDiv n (2 ^ (n.log2 - 52)) := by
    refine Nat.le_trans ?_ (div_le_roundDiv _ _)
    rw [Nat.le_div_iff_mul_le (Nat.two_pow_pos _), Nat.pow_eq, ← Nat.pow_add]
    have hexp : 52 + (n.log2 - 52) = n.log2 := by omega
    rwa [hexp]
  rw [ofInt, ofRatio, hn, if_neg hne] at h
  simp only [hunit, hunits] at h
  exact le_natAbs_of_normalise hfull (by omega) h

/-- Where the number made of an integer is a natural number below 2^53, so is the integer. -/
theorem toInt?_ofInt_eq_iff {i : Int} {n : Nat} (hn : n < Nat.pow 2 precision) :
    (ofInt i).toInt? = some (n : Int) ↔ i = n := by
  constructor
  · intro h
    by_cases hi : Nat.pow 2 precision ≤ i.natAbs
    · have hle := le_natAbs_of_toInt?_ofInt hi h
      omega
    · rw [toInt?_ofInt (Nat.not_le.1 hi)] at h
      exact Option.some.inj h
  · rintro rfl
    exact toInt?_ofInt hn

end Stencil.Binary64

namespace Stencil

/-! ## decimal digits -/

/-- The digits of a number have its value. -/
theorem digitsValue_toDigits (n : Nat) : digitsValue (Nat.toDigits 10 n) = n :=
  Nat.ofDigitChars_toDigits (by decide) (by decide)

theorem isDigit_of_mem_toDigits {n : Nat} : ∀ c ∈ Nat.toDigits 10 n, c.isDigit = true :=
  fun _ => Nat.isDigit_of_mem_toDigits (by decide) (by decide)

/-- They are read as digits to their end. -/
theorem spanDigits_toDigits (n : Nat) :
    spanDigits (Nat.toDigits 10 n) = (Nat.toDigits 10 n, []) := by
  have hspan : ∀ {cs : List Char}, (∀ c ∈ cs, c.isDigit = true) → spanDigits cs = (cs, []) := by
    intro cs h
    induction cs with
    | nil => rfl
    | cons c cs ih =>
      have hrest := ih fun x hx => h x (List.mem_cons_of_mem c hx)
      rw [spanDigits, Prod.mk.injEq] at hrest ⊢
      rw [List.takeWhile_cons_of_pos (h c List.mem_cons_self),
        List.dropWhile_cons_of_pos (h c List.mem_cons_self), hrest.1]
      exact ⟨rfl, hrest.2⟩
  exact hspan isDigit_of_mem_toDigits

theorem toLower_of_isDigit {c : Char} (h : c.isDigit = true) : c.toLower = c := by
  have hle : c.val ≤ '9'.val := (Char.isDigit_iff_toNat.1 h).2
  refine dif_neg ?_
  rintro ⟨hge, -⟩
  exact absurd (UInt32.le_trans hge hle) (by decide)

theorem isWhiteSpace_of_isDigit {c : Char} (h : c.isDigit = true) :
    Unicode.isWhiteSpace c = false := by
  obtain ⟨hge, hle⟩ : 48 ≤ c.toNat ∧ c.toNat ≤ 57 := Char.isDigit_iff_toNat.1 h
  have hascii : Unicode.isAscii c = true := by
    rw [Unicode.isAscii, decide_eq_true_iff]
    omega
  have hspace : c ≠ ' ' := by
    rintro rfl
    cases h
  have hcontrol : ¬ c ≤ '\r' := fun hc => by
    have hnat : c.toNat ≤ 13 := hc
    omega
  rw [Unicode.isWhiteSpace, Unicode.inClass, if_pos hascii]
  simp [Unicode.isAsciiWhiteSpace, hspace, hcontrol]

/-! ## numerals -/

namespace Numeral

/-- They are read as a numeral without a fraction or an exponent. -/
theorem parseUnsigned?_toDigits (negative : Bool) (n : Nat) :
    parseUnsigned? negative (Nat.toDigits 10 n) = some ⟨negative, n, 0⟩ := by
  have hne : (Nat.toDigits 10 n).isEmpty = false := by simp [Nat.toDigits_ne_nil]
  rw [parseUnsigned?, spanDigits_toDigits]
  simp [hne, parseExponent?, ofParts, digitsValue_toDigits]

/-- Digits are no name of a number, and they are read with a sign and without. -/
theorem parse?_toDigits (n : Nat) :
    parse? (Nat.toDigits 10 n) = some (toBinary64 ⟨false, n, 0⟩) ∧
      parse? ('-' :: Nat.toDigits 10 n) = some (toBinary64 ⟨true, n, 0⟩) := by
  obtain ⟨d, ds, hds⟩ := List.exists_cons_of_ne_nil (Nat.toDigits_ne_nil (b := 10) (n := n))
  have hd : d.isDigit = true := isDigit_of_mem_toDigits (n := n) d (by simp [hds])
  have hlower : d.toLower ≠ 'i' ∧ d.toLower ≠ 'n' := by
    rw [toLower_of_isDigit hd]
    constructor <;> rintro rfl <;> cases hd
  have hpos := parseUnsigned?_toDigits false n
  have hneg := parseUnsigned?_toDigits true n
  rw [hds] at hpos hneg ⊢
  constructor
  · unfold parse?
    split
    next negative rest hsign =>
      split at hsign
      · next heq =>
        cases heq
        cases hd
      · next heq =>
        cases heq
        cases hd
      · cases hsign
        simp [hlower, hpos]
  · simp [parse?, hlower, hneg]

end Numeral

end Stencil

namespace Stencil.Script

/-- An integer is written with its digits, and with a sign if it is negative. -/
theorem toList_toString (i : Int) :
    (toString i).toList = (if i < 0 then ['-'] else []) ++ Nat.toDigits 10 i.natAbs := by
  rcases i with n | n
  · have hsign : ¬ Int.ofNat n < 0 := Int.not_lt.2 (Int.natCast_nonneg n)
    rw [if_neg hsign, List.nil_append]
    exact Nat.toList_repr
  · have htext : toString (Int.negSucc n) = "-" ++ (n + 1).repr := rfl
    rw [if_pos (Int.negSucc_lt_zero n), htext, String.toList_append, Nat.toList_repr]
    rfl

/-- So there are digits and signs in it only. -/
theorem mem_toString {i : Int} : ∀ c ∈ (toString i).toList, c = '-' ∨ c.isDigit = true := by
  intro c hc
  rw [toList_toString] at hc
  rcases List.mem_append.1 hc with hsign | hdigit
  · split at hsign
    · exact .inl (List.mem_singleton.1 hsign)
    · cases hsign
  · exact .inr (isDigit_of_mem_toDigits c hdigit)

/-- The text of an integer counts as the number that its digits stand for. -/
theorem toNumber_toString (i : Int) :
    toNumber (.string (toString i)) = Numeral.toBinary64 ⟨i < 0, i.natAbs, 0⟩ := by
  have hspace : ∀ c ∈ (toString i).toList, Unicode.isWhiteSpace c = false := by
    intro c hc
    rcases mem_toString c hc with rfl | hdigit
    · decide
    · exact isWhiteSpace_of_isDigit hdigit
  obtain ⟨hplain, hminus⟩ := Numeral.parse?_toDigits i.natAbs
  rw [toNumber, Text.trimChars_eq_self hspace, toList_toString]
  by_cases hsign : i < 0
  · simp [hsign, hminus]
  · simp [hsign, hplain, Nat.toDigits_ne_nil]

/-- The text of an integer counts as a natural number below 2^53 only if that is the
integer. -/
theorem toInt?_toNumber_toString {i : Int} {n : Nat} (hn : n < Nat.pow 2 Binary64.precision) :
    (toNumber (.string (toString i))).toInt? = some (n : Int) ↔ i = n := by
  have hshort : i = n → (Nat.toDigits 10 i.natAbs).length ≤ 16 := by
    rintro rfl
    rw [Nat.length_toDigits_le_iff (by decide) (by decide)]
    exact Nat.lt_trans hn (by decide)
  rw [toNumber_toString, Numeral.toBinary64]
  simp only [Int.add_zero, Int.le_refl, if_true, Int.toNat_zero, Nat.pow_eq, Nat.pow_zero,
    Nat.mul_one]
  split
  · next hzero =>
    obtain rfl : i = 0 := Int.natAbs_eq_zero.1 hzero
    have hofInt : Binary64.ofInt 0 = .zero (decide ((0 : Int) < 0)) := rfl
    rw [← hofInt]
    exact Binary64.toInt?_ofInt_eq_iff hn
  split
  · next hlong =>
    -- a numeral of more than 310 digits is read as infinite, and no such integer is near 2^53
    constructor
    · intro h
      cases h
    · intro h
      have hle := hshort h
      omega
  rw [if_neg (by omega)]
  exact Binary64.toInt?_ofInt_eq_iff hn

end Stencil.Script
