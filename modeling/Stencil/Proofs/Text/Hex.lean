import Stencil.Text.Hex
import Stencil.Text.Quoted

/-!
# Stencil.Proofs.Text.Hex

Hexadecimal digits and code points: the digits that a number is written in are
read as that number again (`hexNumber?_toDigits`), and no character has more than
six of them (`length_hexDigits_le`).
-/

namespace Stencil.Text

theorem hexValue?_digitChar : ∀ k < 16,
    hexValue? k.digitChar = some k ∧ hexValue? k.digitChar.toUpper = some k := by decide

theorem charOf?_toNat (c : Char) : charOf? c.toNat = some c := by
  have hvalid : c.toNat.isValidChar := c.valid
  rw [charOf?, if_pos hvalid, Char.ofNat_toNat]

theorem hexNumber?_toDigits (n : Nat) : hexNumber? (Nat.toDigits 16 n) = some n := by
  induction n using Nat.strongRecOn with
  | ind n ih =>
    rw [Nat.toDigits_eq_if (by decide)]
    split
    · next hlt =>
      have hvalue := (hexValue?_digitChar n hlt).1
      simp [hexNumber?, hvalue]
    · next hle =>
      have hfront := ih (n / 16) (by omega)
      have hvalue := (hexValue?_digitChar (n % 16) (by omega)).1
      have hsum : 16 * (n / 16) + n % 16 = n := by omega
      rw [hexNumber?] at hfront ⊢
      simp [List.foldlM_append, hfront, hvalue, hsum]

/-- Only digits are read as a number. -/
theorem isDigit_of_foldlM {ds : List Char} {m n : Nat}
    (h : ds.foldlM (fun n c => (hexValue? c).map (16 * n + ·)) m = some n) :
    ∀ c ∈ ds, hexValue? c ≠ none := by
  induction ds generalizing m with
  | nil => simp
  | cons d ds ih =>
    rw [List.foldlM_cons] at h
    obtain ⟨k, hk, hrest⟩ := Option.bind_eq_some_iff.1 h
    intro c hc
    rcases List.mem_cons.1 hc with rfl | hc
    · intro hnone
      rw [hnone] at hk
      cases hk
    · exact ih hrest c hc

theorem length_hexDigits_le (c : Char) : (hexDigits c).length ≤ 6 := by
  have hvalid : c.toNat < 0x110000 := by
    have := c.valid
    rcases this with h | ⟨-, h⟩ <;> simp only [Char.toNat] <;> omega
  rw [hexDigits, Nat.length_toDigits_le_iff (by decide) (by decide)]
  omega

end Stencil.Text
