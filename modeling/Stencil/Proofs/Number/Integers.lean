import Stencil.Script.Value

/-!
# Stencil.Proofs.Number.Integers

Integers as numbers of the format binary64. All that have at most 53 bits are held exactly,
so a safe integer is still the same integer when it has been made a number of the format
(`ofBinary64_ofInt`). However many bits an integer has, no other than zero becomes a zero
(`isZero_ofInt`).
-/

namespace Stencil.Binary64

theorem floorLog2_one {n : Nat} (h : n ≠ 0) : floorLog2 n 1 = n.log2 := by
  have hle : 2 ^ n.log2 ≤ n := Nat.log2_self_le h
  have hone : Nat.log2 1 = 0 := by decide
  have hnonneg : (0 : Int) ≤ n.log2 := Int.natCast_nonneg _
  simp only [floorLog2, hone, inUnits, Int.natCast_zero, Int.sub_zero, hnonneg, if_true,
    Int.toNat_natCast, Nat.one_mul, Nat.pow_eq]
  rw [if_neg (Nat.not_lt.2 hle)]

/-- The significand of an integer that the format holds exactly has all its bits. -/
theorem ofInt_eq {n : Int} (h : n ≠ 0) (hbits : n.natAbs.log2 < precision) :
    ofInt n = .finite (n < 0) (n.natAbs * Nat.pow 2 (52 - n.natAbs.log2)) (n.natAbs.log2 - 52) := by
  rw [Nat.pow_eq]
  have hne : n.natAbs ≠ 0 := by omega
  have hlt : n.natAbs < 2 ^ (n.natAbs.log2 + 1) := Nat.lt_log2_self
  generalize hk : n.natAbs.log2 = k at hbits hlt ⊢
  have hle : k ≤ 52 := Nat.le_of_lt_succ hbits
  have hunit : unitExponent n.natAbs 1 = (k : Int) - 52 := by
    rw [unitExponent, floorLog2_one hne, hk, minExponent, precision]
    omega
  have hunits : inUnits n.natAbs 1 ((k : Int) - 52) = (n.natAbs * 2 ^ (52 - k), 1) := by
    rw [inUnits]
    by_cases heq : k = 52
    · simp [heq]
    · rw [if_neg (by omega)]
      have hexp : (-((k : Int) - 52)).toNat = 52 - k := by omega
      rw [hexp]
      rfl
  have hsmall : n.natAbs * 2 ^ (52 - k) < 2 ^ 53 := by
    calc n.natAbs * 2 ^ (52 - k) < 2 ^ (k + 1) * 2 ^ (52 - k) :=
          Nat.mul_lt_mul_of_pos_right hlt (Nat.two_pow_pos _)
      _ = 2 ^ 53 := by rw [← Nat.pow_add]; congr 1; omega
  have hfull : n.natAbs * 2 ^ (52 - k) ≠ Nat.pow 2 precision := Nat.ne_of_lt hsmall
  have hrange : ¬ maxExponent < (k : Int) - 52 := by rw [maxExponent]; omega
  rw [ofInt, ofRatio, if_neg hne]
  simp only [hunit, hunits, Number.roundDiv_one, normalise, if_neg hfull, if_neg hrange]

/-- An integer of at most 53 bits is held exactly. -/
theorem toInt?_ofInt {n : Int} (h : n.natAbs < Nat.pow 2 precision) :
    (ofInt n).toInt? = some n := by
  rw [Nat.pow_eq] at h
  by_cases hzero : n = 0
  · have hofInt : ofInt n = .finite false 0 minExponent := by
      subst hzero
      rfl
    rw [hofInt, toInt?, if_neg (by decide), Nat.zero_mod, if_pos rfl, Nat.zero_div, signed, hzero]
    rfl
  · have hbits : n.natAbs.log2 < precision := (Nat.log2_lt (by omega)).2 h
    have hsigned : signed (decide (n < 0)) n.natAbs = n := by
      by_cases hneg : n < 0
      · rw [signed, if_pos (decide_eq_true hneg)]
        omega
      · rw [signed, if_neg (by simpa using hneg)]
        omega
    rw [ofInt_eq hzero hbits]
    generalize n.natAbs.log2 = k at hbits
    have hle : k ≤ 52 := Nat.le_of_lt_succ hbits
    rw [toInt?]
    by_cases heq : k = 52
    · subst heq
      simpa using hsigned
    · have hexp : (-((k : Int) - 52)).toNat = 52 - k := by omega
      rw [if_neg (by omega), hexp, Nat.pow_eq, Nat.mul_mod_left, if_pos rfl,
        Nat.mul_div_cancel _ (Nat.two_pow_pos _), hsigned]

/-! ## zero -/

theorem isZero_normalise {significand : Nat} (h : significand ≠ 0) (negative : Bool) (e : Int) :
    (normalise negative significand e).isZero = false := by
  rw [normalise]
  by_cases hfull : significand = Nat.pow 2 precision
  · rw [if_pos hfull]
    dsimp only
    split
    · rfl
    · simp [isZero]
  · rw [if_neg hfull]
    dsimp only
    split
    · rfl
    · simpa [isZero] using h

/-- An integer has no less than one unit of its last bit. -/
theorem inUnits_unitExponent_le {n : Nat} (h : n ≠ 0) :
    0 < (inUnits n 1 (unitExponent n 1)).2 ∧
      (inUnits n 1 (unitExponent n 1)).2 ≤ (inUnits n 1 (unitExponent n 1)).1 := by
  have hself : 2 ^ n.log2 ≤ n := Nat.log2_self_le h
  have hunit : unitExponent n 1 = (n.log2 : Int) - 52 := by
    rw [unitExponent, floorLog2_one h, minExponent, precision]
    omega
  rw [hunit, inUnits]
  split
  · have hle : 2 ^ ((n.log2 : Int) - 52).toNat ≤ 2 ^ n.log2 :=
      Nat.pow_le_pow_right (by decide) (by omega)
    rw [Nat.one_mul]
    exact ⟨Nat.two_pow_pos _, Nat.le_trans hle hself⟩
  · have hpos : 0 < n * 2 ^ (-((n.log2 : Int) - 52)).toNat :=
      Nat.mul_pos (by omega) (Nat.two_pow_pos _)
    exact ⟨Nat.one_pos, hpos⟩

theorem roundDiv_ne_zero {num den : Nat} (hpos : 0 < den) (h : den ≤ num) :
    Number.roundDiv num den ≠ 0 := by
  have hquotient : 0 < num / den := Nat.div_pos h hpos
  rw [Number.roundDiv]
  split
  · omega
  · split
    · omega
    · split <;> omega

/-- No integer but zero becomes a zero. -/
theorem isZero_ofInt (n : Int) : (ofInt n).isZero = decide (n = 0) := by
  by_cases hzero : n = 0
  · subst hzero
    rfl
  · have hne : n.natAbs ≠ 0 := by omega
    obtain ⟨hpos, hle⟩ := inUnits_unitExponent_le hne
    rw [ofInt, ofRatio, if_neg hne, isZero_normalise (roundDiv_ne_zero hpos hle)]
    simp [hzero]

/-- Being equal to zero is to be a zero of either sign. -/
theorem equal_zero (x : Binary64) (negative : Bool) : x.equal (zero negative) = x.isZero := by
  cases x with
  | nan => rfl
  | inf b => cases b <;> rfl
  | finite b m e =>
    have hright : ∀ k, signed negative (0 * k) = 0 := by
      intro k
      cases negative <;> simp [signed]
    have hleft : ∀ k, signed b (m * 2 ^ k) = 0 ↔ m = 0 := by
      intro k
      have hmul : m * 2 ^ k = 0 ↔ m = 0 := by
        have hpow : 2 ^ k ≠ 0 := Nat.ne_of_gt (Nat.two_pow_pos k)
        simp only [Nat.mul_eq_zero, hpow, or_false]
      generalize m * 2 ^ k = x at hmul ⊢
      cases b <;> simp [signed, hmul]
    simp only [equal, zero, compare?, aligned, hright, isZero, Nat.pow_eq]
    rw [Bool.eq_iff_iff]
    simp [hleft]

end Stencil.Binary64

namespace Stencil.Script

/-- A safe integer is the same integer after it has been a number of the format. -/
theorem ofBinary64_ofInt {n : Int} (h : n.natAbs ≤ maxSafeInteger) :
    ofBinary64 (.ofInt n) = .int n := by
  have hlt : n.natAbs < Nat.pow 2 Binary64.precision := by
    rw [maxSafeInteger] at h
    rw [Binary64.precision, Nat.pow_eq]
    omega
  rw [ofBinary64, safeInt?, Binary64.toInt?_ofInt hlt]
  simp only [if_pos h]

/-- An integer is equal to zero if it is zero. -/
theorem equals_zero (n : Int) : equals (.int n) (.int 0) = decide (n = 0) := by
  rw [← Binary64.isZero_ofInt, ← Binary64.equal_zero _ false]
  rfl

end Stencil.Script
