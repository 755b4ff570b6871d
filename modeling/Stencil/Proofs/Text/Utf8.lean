import Mathlib.Tactic.SplitIfs
import Stencil.Text.Utf8

/-!
# Stencil.Proofs.Text.Utf8

Octets of a text can be cut wherever a text occurs in them. The form UTF-8 says
of every octet whether a character begins with it, so a text that is not empty
occurs in another one only at a place between two characters, and it ends at
such a place too: `IsUtf8.cut`.

Octets are in the order of the texts: `utf8_lt_utf8_iff`.
-/

namespace Stencil.Text

/-- Octets are the UTF-8 form of a text. -/
def IsUtf8 (bs : List UInt8) : Prop := ∃ cs, bs = utf8Chars cs

@[simp] theorem isUtf8_utf8 (s : String) : IsUtf8 (utf8 s) := ⟨s.toList, rfl⟩

@[simp] theorem isUtf8_nil : IsUtf8 [] := ⟨[], rfl⟩

theorem IsUtf8.append {xs ys : List UInt8} (hxs : IsUtf8 xs) (hys : IsUtf8 ys) :
    IsUtf8 (xs ++ ys) := by
  obtain ⟨cs, rfl⟩ := hxs
  obtain ⟨ds, rfl⟩ := hys
  exact ⟨cs ++ ds, (utf8Chars_append cs ds).symm⟩

theorem utf8_ofList (cs : List Char) : utf8 (String.ofList cs) = utf8Chars cs := by
  simp [utf8]

/-- Reading back what is UTF-8 loses nothing. -/
theorem IsUtf8.exists_text {bs : List UInt8} (h : IsUtf8 bs) :
    ∃ s, ofUtf8? bs = some s ∧ utf8 s = bs := by
  obtain ⟨cs, rfl⟩ := h
  refine ⟨String.ofList cs, ?_, utf8_ofList cs⟩
  rw [← utf8_ofList, ofUtf8?_utf8]

/-- Only what is UTF-8 is read. -/
theorem isUtf8_of_ofUtf8? {bs : List UInt8} {s : String} (h : ofUtf8? bs = some s) : IsUtf8 bs := by
  unfold ofUtf8? String.fromUTF8? at h
  split at h
  · next hvalid =>
    obtain ⟨cs, hcs⟩ := hvalid
    rw [← toByteArray_utf8Chars] at hcs
    exact ⟨cs, List.toByteArray_inj.1 hcs⟩
  · cases h

theorem ofUtf8?_eq_none_iff {bs : List UInt8} : ofUtf8? bs = none ↔ ¬ IsUtf8 bs := by
  constructor
  · intro hnone htext
    obtain ⟨s, hs, -⟩ := htext.exists_text
    rw [hnone] at hs
    cases hs
  · intro htext
    cases hs : ofUtf8? bs with
    | none => rfl
    | some s => exact absurd (isUtf8_of_ofUtf8? hs) htext

theorem utf8_eq_nil_iff {s : String} : utf8 s = [] ↔ s = "" := by
  constructor
  · intro h
    have hs : some s = some "" := by
      rw [← ofUtf8?_utf8 s, h]
      exact ofUtf8?_utf8 ""
    exact Option.some.inj hs
  · rintro rfl
    rfl

/-! ## first octets -/

/-- A character begins with its first octet and with no other one. -/
theorem exists_utf8EncodeChar (c : Char) : ∃ b bs, String.utf8EncodeChar c = b :: bs ∧
    b.IsUTF8FirstByte ∧ ∀ x ∈ bs, ¬ x.IsUTF8FirstByte := by
  rcases h : String.utf8EncodeChar c with _ | ⟨b, bs⟩
  · have hlen := String.length_utf8EncodeChar c
    have hpos := c.utf8Size_pos
    rw [h, List.length_nil] at hlen
    omega
  · have hfirst : ∀ i (hi : i < (b :: bs).length), (b :: bs)[i].IsUTF8FirstByte ↔ i = 0 := by
      intro i hi
      simp only [← h]
      exact UInt8.isUTF8FirstByte_getElem_utf8EncodeChar
    refine ⟨b, bs, rfl, (hfirst 0 (by simp)).2 rfl, fun x hx hb => ?_⟩
    obtain ⟨i, hi, rfl⟩ := List.getElem_of_mem hx
    have hzero := (hfirst (i + 1) (by simpa using hi)).1 hb
    omega

/-- The octets of a character outside ASCII are not those of ASCII. -/
theorem le_of_mem_utf8EncodeChar {c : Char} (h : 0x80 ≤ c.toNat) :
    ∀ b ∈ String.utf8EncodeChar c, 0x80 ≤ b.toNat := by
  have hbyte : ∀ n, 0x80 ≤ n → n < 0x100 → 0x80 ≤ (UInt8.ofNat n).toNat := by
    intro n hle hlt
    rwa [UInt8.toNat_ofNat', Nat.mod_eq_of_lt hlt]
  have hc : ¬ c.val.toNat ≤ 0x7f := Nat.not_le_of_lt h
  unfold String.utf8EncodeChar
  simp only [hc, if_false]
  intro b hb
  split at hb
  · simp only [List.mem_cons, List.not_mem_nil, or_false] at hb
    rcases hb with rfl | rfl <;> exact hbyte _ (by omega) (by omega)
  split at hb
  · simp only [List.mem_cons, List.not_mem_nil, or_false] at hb
    rcases hb with rfl | rfl | rfl <;> exact hbyte _ (by omega) (by omega)
  · simp only [List.mem_cons, List.not_mem_nil, or_false] at hb
    rcases hb with rfl | rfl | rfl | rfl <;> exact hbyte _ (by omega) (by omega)

/-- The octets of a text that is not empty begin with a first octet. -/
theorem exists_utf8Chars {cs : List Char} (h : cs ≠ []) :
    ∃ b bs, utf8Chars cs = b :: bs ∧ b.IsUTF8FirstByte := by
  cases cs with
  | nil => contradiction
  | cons c cs =>
    obtain ⟨b, bs, hc, hb, -⟩ := exists_utf8EncodeChar c
    exact ⟨b, bs ++ utf8Chars cs, by rw [utf8Chars_cons, hc]; rfl, hb⟩

/-! ## cutting -/

/-- A cut before a first octet is a cut between two characters. -/
theorem utf8Chars_cut_before {cs : List Char} {xs ys : List UInt8} {b : UInt8}
    (h : utf8Chars cs = xs ++ b :: ys) (hb : b.IsUTF8FirstByte) :
    IsUtf8 xs ∧ IsUtf8 (b :: ys) := by
  induction cs generalizing xs with
  | nil => simp at h
  | cons c cs ih =>
    obtain ⟨b₀, bs, hc, -, hbs⟩ := exists_utf8EncodeChar c
    cases xs with
    | nil => exact ⟨isUtf8_nil, c :: cs, h.symm⟩
    | cons x xs =>
      rw [utf8Chars_cons, hc, List.cons_append, List.cons_append, List.cons.injEq] at h
      obtain ⟨rfl, h⟩ := h
      -- the cut is not inside `c`, since no octet of `bs` is a first octet
      rcases List.append_eq_append_iff.1 h with ⟨ws, rfl, hws⟩ | ⟨ws, rfl, hws⟩
      · obtain ⟨⟨ds, hds⟩, hrest⟩ := ih hws
        refine ⟨⟨c :: ds, ?_⟩, hrest⟩
        rw [utf8Chars_cons, hc, hds]
        rfl
      · cases ws with
        | nil =>
          refine ⟨⟨[c], by simp [hc]⟩, cs, ?_⟩
          simpa using hws
        | cons w ws =>
          obtain ⟨rfl, -⟩ := List.cons.inj hws
          exact absurd hb (hbs b (by simp))

/-- What follows a text in the octets of a text is a text. -/
theorem utf8Chars_cut_after {cs ps : List Char} {ys : List UInt8}
    (h : utf8Chars cs = utf8Chars ps ++ ys) : ∃ ds, cs = ps ++ ds ∧ ys = utf8Chars ds := by
  have hp : ps <+: cs := by
    apply List.isPrefix_of_utf8Encode_append_eq_utf8Encode ys.toByteArray
    rw [← toByteArray_utf8Chars, ← toByteArray_utf8Chars, h, List.toByteArray_append]
  obtain ⟨ds, rfl⟩ := hp
  rw [utf8Chars_append] at h
  exact ⟨ds, rfl, (List.append_cancel_left h).symm⟩

/-- Octets of a text are cut between two characters where a text begins that
occurs in them, and where it ends. -/
theorem IsUtf8.cut {xs ys : List UInt8} {p : String} (hp : p ≠ "")
    (h : IsUtf8 (xs ++ utf8 p ++ ys)) : IsUtf8 xs ∧ IsUtf8 ys := by
  obtain ⟨cs, hcs⟩ := h
  have hne : p.toList ≠ [] := by simpa using hp
  obtain ⟨b, bs, hb, hfirst⟩ := exists_utf8Chars hne
  rw [utf8, hb, List.append_assoc, List.cons_append] at hcs
  obtain ⟨hxs, ds, hds⟩ := utf8Chars_cut_before hcs.symm hfirst
  refine ⟨hxs, ?_⟩
  rw [← List.cons_append, ← hb] at hds
  obtain ⟨es, -, hys⟩ := utf8Chars_cut_after hds.symm
  exact ⟨es, hys⟩

/-! ## counting octets -/

theorem length_utf8Chars (cs : List Char) : (utf8Chars cs).length = octets cs := by
  induction cs with
  | nil => rfl
  | cons c cs ih =>
    rw [utf8Chars_cons, List.length_append, String.length_utf8EncodeChar, ih, octets_cons]

/-- A run of characters is cut off where it ends. -/
theorem takeOctets?_eq_some_iff {n : Nat} {cs front : List Char} :
    takeOctets? n cs = some front ↔ octets front = n ∧ front <+: cs := by
  induction cs generalizing n front with
  | nil =>
    cases n with
    | zero =>
      constructor
      · intro h
        obtain rfl : [] = front := by simpa [takeOctets?] using h
        exact ⟨rfl, List.prefix_refl _⟩
      · rintro ⟨-, h⟩
        rw [List.prefix_nil.1 h, takeOctets?]
    | succ n =>
      simp only [takeOctets?, List.prefix_nil]
      constructor
      · intro h
        cases h
      · rintro ⟨h, rfl⟩
        cases h
  | cons c cs ih =>
    have hc := c.utf8Size_pos
    cases n with
    | zero =>
      constructor
      · intro h
        obtain rfl : [] = front := by simpa [takeOctets?] using h
        exact ⟨rfl, List.nil_prefix⟩
      · rintro ⟨h, -⟩
        cases front with
        | nil => rfl
        | cons d front =>
          have hd := d.utf8Size_pos
          rw [octets_cons] at h
          omega
    | succ n =>
      rw [takeOctets?]
      constructor
      · intro h
        split at h
        · next hle =>
          obtain ⟨more, hmore, rfl⟩ := Option.map_eq_some_iff.1 h
          obtain ⟨hoctets, hstarts⟩ := ih.1 hmore
          exact ⟨by rw [octets_cons]; omega, (List.prefix_cons_inj c).2 hstarts⟩
        · cases h
      · rintro ⟨h, hstarts⟩
        cases front with
        | nil => cases h
        | cons d front =>
          obtain ⟨rfl, hfront⟩ := List.cons_prefix_cons.1 hstarts
          rw [octets_cons] at h
          have hmore : octets front = n + 1 - d.utf8Size := by omega
          rw [if_pos (by omega), ih.2 ⟨hmore, hfront⟩]
          rfl

/-! ## order -/

/-- The octets of a character are less than those of a greater one, whatever follows. -/
theorem utf8EncodeChar_append_lt {c d : Char} (h : c < d) (xs ys : List UInt8) :
    String.utf8EncodeChar c ++ xs < String.utf8EncodeChar d ++ ys := by
  have hlt : c.val.toNat < d.val.toNat := h
  have hd : d.val.toNat < 0x110000 := by
    rcases d.valid with hvalid | ⟨-, hvalid⟩
    · exact Nat.lt_trans hvalid (by decide)
    · exact hvalid
  unfold String.utf8EncodeChar
  generalize c.val.toNat = m at hlt
  generalize d.val.toNat = n at hlt hd
  dsimp only
  -- a longer form has the greater first octet, and forms of one length are compared by digits
  split_ifs <;>
    simp only [List.cons_append, List.nil_append, List.cons_lt_cons_iff, UInt8.lt_iff_toNat_lt,
      ← UInt8.toNat_inj, UInt8.toNat_ofNat', Nat.reducePow] <;>
    simp (disch := omega) only [Nat.mod_eq_of_lt] <;>
    omega

theorem utf8Chars_lt_utf8Chars {cs ds : List Char} (h : cs < ds) :
    utf8Chars cs < utf8Chars ds := by
  induction h with
  | @nil d ds =>
    obtain ⟨b, bs, hb, -⟩ := exists_utf8Chars (List.cons_ne_nil d ds)
    rw [hb]
    exact .nil
  | rel h => exact utf8EncodeChar_append_lt h _ _
  | cons _ ih => exact List.append_left_lt ih

/-- **The order of texts is that of their octets.** -/
theorem utf8_lt_utf8_iff {s t : String} : utf8 s < utf8 t ↔ s < t := by
  constructor
  · intro h
    rcases Std.lt_trichotomy s t with hlt | rfl | hgt
    · exact hlt
    · exact absurd h (List.lt_irrefl _)
    · exact absurd h (List.lt_asymm (utf8Chars_lt_utf8Chars hgt))
  · exact utf8Chars_lt_utf8Chars

end Stencil.Text
