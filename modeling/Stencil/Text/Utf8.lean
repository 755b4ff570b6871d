/-!
# Stencil.Text.Utf8

A text as the octets of its UTF-8 form. Templates are scanned octet by octet
and offsets count octets, so three things are needed:

1. `utf8` writes a text as octets and `ofUtf8?` reads octets back, refusing
   what is no UTF-8;
2. `octets` is the number of octets that a run of characters takes;
3. `takeOctets?` cuts a run of characters at an octet offset, if the offset
   falls between two characters.
-/

namespace Stencil.Text

/-! ## octets of a text -/

/-- The octets of the UTF-8 form of a run of characters. -/
def utf8Chars (cs : List Char) : List UInt8 := cs.flatMap String.utf8EncodeChar

/-- The octets of the UTF-8 form of a text. -/
def utf8 (s : String) : List UInt8 := utf8Chars s.toList

/-- The text whose UTF-8 form is `bs`, if there is one. -/
def ofUtf8? (bs : List UInt8) : Option String := String.fromUTF8? bs.toByteArray

@[simp] theorem utf8Chars_nil : utf8Chars [] = [] := rfl

@[simp] theorem utf8Chars_cons (c : Char) (cs : List Char) :
    utf8Chars (c :: cs) = String.utf8EncodeChar c ++ utf8Chars cs := rfl

@[simp] theorem utf8Chars_append (cs ds : List Char) :
    utf8Chars (cs ++ ds) = utf8Chars cs ++ utf8Chars ds := by
  simp [utf8Chars]

@[simp] theorem utf8_append (s t : String) : utf8 (s ++ t) = utf8 s ++ utf8 t := by
  simp [utf8]

theorem toByteArray_utf8Chars (cs : List Char) : (utf8Chars cs).toByteArray = cs.utf8Encode := rfl

/-- Octets written by `utf8` are read back. -/
@[simp] theorem ofUtf8?_utf8 (s : String) : ofUtf8? (utf8 s) = some s := by
  have h : (utf8 s).toByteArray = s.toByteArray := by
    rw [utf8, toByteArray_utf8Chars, String.utf8Encode_toList]
  unfold ofUtf8? String.fromUTF8?
  rw [h, dif_pos s.isValidUTF8]
  rfl

/-! ## counting and cutting -/

/-- The number of octets that a run of characters takes. -/
def octets : List Char → Nat
  | [] => 0
  | c :: cs => c.utf8Size + octets cs

@[simp] theorem octets_nil : octets [] = 0 := rfl

@[simp] theorem octets_cons (c : Char) (cs : List Char) :
    octets (c :: cs) = c.utf8Size + octets cs := rfl

@[simp] theorem octets_append (cs ds : List Char) : octets (cs ++ ds) = octets cs + octets ds := by
  induction cs with
  | nil => simp
  | cons c cs ih => simp [ih, Nat.add_assoc]

/-- The longest run of characters at the front that takes exactly `n` octets;
nothing if `n` falls inside a character or past the end. -/
def takeOctets? : Nat → List Char → Option (List Char)
  | 0, _ => some []
  | _ + 1, [] => none
  | n + 1, c :: cs =>
    if c.utf8Size ≤ n + 1 then (takeOctets? (n + 1 - c.utf8Size) cs).map (c :: ·) else none

/-- A run of characters is cut off by its own number of octets. -/
theorem takeOctets?_octets (front back : List Char) :
    takeOctets? (octets front) (front ++ back) = some front := by
  induction front with
  | nil => rw [octets_nil, takeOctets?]
  | cons c front ih =>
    obtain ⟨n, hn⟩ : ∃ n, octets (c :: front) = n + 1 :=
      Nat.exists_eq_add_one.2 (Nat.add_pos_left c.utf8Size_pos _)
    have hle : c.utf8Size ≤ n + 1 := hn ▸ Nat.le_add_right _ _
    have hrest : n + 1 - c.utf8Size = octets front := by
      rw [← hn, octets_cons, Nat.add_sub_cancel_left]
    rw [hn, List.cons_append, takeOctets?, if_pos hle, hrest, ih, Option.map_some]

/-- The last `n` characters of a text, or all of it if it is no longer. -/
def lastChars (n : Nat) (s : String) : String :=
  String.ofList (s.toList.drop (s.toList.length - n))

end Stencil.Text
