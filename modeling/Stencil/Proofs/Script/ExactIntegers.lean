import Stencil.Json.Document
import Stencil.Proofs.Number.Numerals
import Stencil.Proofs.Script.Writes

/-!
# Stencil.Proofs.Script.ExactIntegers

Integers of the data are shown by their decimal numerals, digit for digit. The numeral stays
whole wherever the integer stands in a value (`Place`): the items and fields around it, the
operator and the method that join it with other texts, escaping and trimming add something at
its two sides, which is the same for all integers, and take nothing from it (`Surrounded`). So
two integers are never shown alike: `integers_exact`.

This needs an integer that fits 64 bits with a sign, or an object around it. Above, an integer
outside objects is shown as the nearest number of the format binary64
(`not_isNumeral_of_unsigned`).
-/

namespace Stencil.Script

open Text

/-! ## numerals -/

/-- The decimal numeral of `n`: a sign only if it is negative, and the digits of its size
without a zero in front. -/
def IsNumeral (n : Int) (cs : List Char) : Prop :=
  ∃ digits, cs = (if n < 0 then ['-'] else []) ++ digits ∧ digits ≠ [] ∧
    (∀ c ∈ digits, c.isDigit = true) ∧ (digits.head? = some '0' → digits = ['0']) ∧
    digitsValue digits = n.natAbs

section
variable {n m : Int} {cs : List Char}

/-- Only zero is written with a zero in front. -/
theorem toDigits_of_head?_zero (k : Nat) (h : (Nat.toDigits 10 k).head? = some '0') :
    Nat.toDigits 10 k = ['0'] := by
  induction k using Nat.strongRecOn with
  | _ k ih =>
    by_cases hk : k < 10
    · rw [Nat.toDigits_of_lt_base hk] at h ⊢
      rw [Option.some.inj h]
    · -- the first digit is that of a tenth of the number, which is not zero
      have hdigits := Nat.toDigits_of_base_le (by decide) (Nat.not_lt.1 hk)
      obtain ⟨d, ds, hfront⟩ :=
        List.exists_cons_of_ne_nil (Nat.toDigits_ne_nil (b := 10) (n := k / 10))
      have hfirst : (Nat.toDigits 10 (k / 10)).head? = some '0' := by
        rw [hdigits, hfront, List.cons_append] at h
        rw [hfront]
        exact h
      have htenth := congrArg digitsValue (ih (k / 10) (by omega) hfirst)
      rw [digitsValue_toDigits] at htenth
      have hzero : k / 10 = 0 := htenth
      omega

/-- What an integer is written as is a numeral for it. -/
theorem isNumeral_toString (n : Int) : IsNumeral n (toString n).toList :=
  ⟨Nat.toDigits 10 n.natAbs, toList_toString n, Nat.toDigits_ne_nil, isDigit_of_mem_toDigits,
    toDigits_of_head?_zero _, digitsValue_toDigits _⟩

/-- A numeral is that of one integer. -/
theorem IsNumeral.eq (h : IsNumeral n cs) (h' : IsNumeral m cs) : n = m := by
  obtain ⟨ds, rfl, hne, hdigits, -, hvalue⟩ := h
  obtain ⟨ds', heq, hne', hdigits', -, hvalue'⟩ := h'
  have hsign : ∀ {ds : List Char}, (∀ c ∈ ds, c.isDigit = true) → ∀ more, ds ≠ '-' :: more := by
    rintro ds hds more rfl
    cases hds '-' (List.mem_cons_self ..)
  by_cases hn : n < 0 <;> by_cases hm : m < 0
  · obtain rfl : ds = ds' := by simpa [hn, hm] using heq
    omega
  · simp only [hn, hm, if_true, if_false, List.singleton_append, List.nil_append] at heq
    exact absurd heq.symm (hsign hdigits' ds)
  · simp only [hn, hm, if_true, if_false, List.singleton_append, List.nil_append] at heq
    exact absurd heq (hsign hdigits ds')
  · obtain rfl : ds = ds' := by simpa [hn, hm] using heq
    omega

end

/-! ## texts around a numeral -/

/-- The text `text n` is the numeral of `n` with a front and a back that are the same for
all integers that `exact` holds of. -/
def Surrounded (exact : Int → Prop) (text : Int → String) : Prop :=
  ∃ front back : List Char, ∀ n, exact n →
    (text n).toList = front ++ (toString n).toList ++ back

/-- What `text` shows of the integers that `exact` holds of: their numerals, in the same place
of the text, and so no two of them alike. -/
structure ShowsExactly (exact : Int → Prop) (text : Int → String) : Prop where
  surrounded : Surrounded exact text
  distinct : ∀ n m, exact n → exact m → text n = text m → n = m

/-- A numeral has digits and at most a sign in it. -/
theorem not_mem_toString {n : Int} {p : Char → Bool} (hminus : p '-' = false)
    (hdigits : ∀ c, c.isDigit = true → p c = false) : ∀ c ∈ (toString n).toList, p c = false := by
  intro c hc
  obtain rfl | hdigit := mem_toString c hc
  · exact hminus
  · exact hdigits c hdigit

/-- A numeral has no special characters. -/
theorem escapeHtml_toString (n : Int) : escapeHtml (toString n) = toString n := by
  have hdigits : ∀ c : Char, c.isDigit = true → decide (c ∈ specials) = false := fun c hc => by
    have hspecials : ∀ d ∈ specials, d.isDigit = false := forall_mem_of_all (by decide)
    exact decide_eq_false fun hmem => by simp [hspecials c hmem] at hc
  exact escapeHtml_eq_self_iff.2 fun c hc =>
    of_decide_eq_false (not_mem_toString (p := fun c => c ∈ specials) (by decide) hdigits c hc)

/-- Putting texts together leaves a place for one among the others. -/
theorem exists_intercalate (sep : List Char) (before after : List (List Char)) :
    ∃ front back : List Char, ∀ t, sep.intercalate (before ++ t :: after) = front ++ t ++ back := by
  induction before with
  | nil =>
    cases after with
    | nil => exact ⟨[], [], fun t => by simp⟩
    | cons s after =>
      exact ⟨[], sep ++ sep.intercalate (s :: after), fun t => by
        rw [List.nil_append, List.intercalate_cons_of_ne_nil (by simp)]
        simp⟩
  | cons s before ih =>
    obtain ⟨front, back, h⟩ := ih
    refine ⟨s ++ sep ++ front, back, fun t => ?_⟩
    rw [List.cons_append, List.intercalate_cons_of_ne_nil (by simp), h]
    simp only [List.append_assoc]

/-- No digit is trimmed. -/
theorem isBlank_of_isDigit {c : Char} (h : c.isDigit = true) : isBlank c = false := by
  refine Bool.eq_false_iff.2 fun hblank => ?_
  have hcases : c = ' ' ∨ c = '\t' ∨ c = '\x0c' ∨ c = '\r' ∨ c = '\n' := by
    simpa [isBlank, isLineEnding, or_assoc] using hblank
  rcases hcases with rfl | rfl | rfl | rfl | rfl <;> cases h

/-- What is not trimmed as a blank is not trimmed as a line ending. -/
theorem isLineEnding_of_isBlank {c : Char} (h : isBlank c = false) : isLineEnding c = false := by
  rw [isBlank, Bool.or_eq_false_iff] at h
  exact h.2

namespace Surrounded

variable {exact exact' : Int → Prop} {text : Int → String}

/-- Surrounded by other text, a numeral still tells its integer. -/
theorem showsExactly (h : Surrounded exact text) : ShowsExactly exact text := by
  refine ⟨h, fun n m hn hm heq => ?_⟩
  obtain ⟨front, back, h⟩ := h
  have htext := congrArg String.toList heq
  rw [h n hn, h m hm] at htext
  have hnumeral : (toString n).toList = (toString m).toList :=
    List.append_cancel_left (List.append_cancel_right htext)
  exact (isNumeral_toString n).eq (hnumeral ▸ isNumeral_toString m)

/-- Fewer integers may be asked for. -/
theorem weaken (h : Surrounded exact text) (himp : ∀ n, exact' n → exact n) :
    Surrounded exact' text := by
  obtain ⟨front, back, h⟩ := h
  exact ⟨front, back, fun n hn => h n (himp n hn)⟩

/-- More text may stand around it. -/
theorem between (h : Surrounded exact text) (a b : String) :
    Surrounded exact fun n => a ++ text n ++ b := by
  obtain ⟨front, back, h⟩ := h
  refine ⟨a.toList ++ front, back ++ b.toList, fun n hn => ?_⟩
  simp only [String.toList_append, h n hn, List.append_assoc]

/-- It may be one of several texts with others between them. -/
theorem intercalate (h : Surrounded exact text) (sep : String) (before after : List String) :
    Surrounded exact fun n => String.intercalate sep (before ++ text n :: after) := by
  obtain ⟨front, back, h⟩ := h
  obtain ⟨a, b, hjoined⟩ :=
    exists_intercalate sep.toList (before.map String.toList) (after.map String.toList)
  refine ⟨a ++ front, back ++ b, fun n hn => ?_⟩
  rw [String.toList_intercalate, List.map_append, List.map_cons, hjoined, h n hn]
  simp only [List.append_assoc]

/-- It may be escaped for HTML. -/
theorem escaped (h : Surrounded exact text) : Surrounded exact fun n => escapeHtml (text n) := by
  obtain ⟨front, back, h⟩ := h
  refine ⟨front.flatMap htmlChar, back.flatMap htmlChar, fun n hn => ?_⟩
  have hnumeral := congrArg String.toList (escapeHtml_toString n)
  rw [toList_escapeHtml] at hnumeral
  rw [toList_escapeHtml, h n hn, List.flatMap_append, List.flatMap_append, hnumeral]

/-- A numeral has neither end to be trimmed. -/
theorem trimmed (h : Surrounded exact text) {p : Char → Bool} (hminus : p '-' = false)
    (hdigits : ∀ c, c.isDigit = true → p c = false) :
    Surrounded exact fun n => trimEnds p (text n) := by
  obtain ⟨front, back, h⟩ := h
  refine ⟨front.dropWhile p, (back.reverse.dropWhile p).reverse, fun n hn => ?_⟩
  have hkept := not_mem_toString (n := n) hminus hdigits
  have hbare : BareEnds p (toString n).toList :=
    ⟨fun c hc => hkept c (List.mem_of_mem_head? hc), fun c hc => hkept c (List.mem_of_getLast? hc)⟩
  have hne : (toString n).toList ≠ [] := by
    rw [toList_toString]
    simp [Nat.toDigits_ne_nil]
  rw [toList_trimEnds, h n hn, hbare.trimChars_append hne]

/-- What a marker does with a text. -/
theorem marked (h : Surrounded exact text) (escape : Bool) (trim : Trim) :
    Surrounded exact fun n => applyTrim trim (if escape then escapeHtml (text n) else text n) := by
  have hescaped : Surrounded exact fun n => if escape then escapeHtml (text n) else text n := by
    cases escape
    · exact h
    · exact h.escaped
  cases trim with
  | none => exact hescaped
  | lineEndings =>
    exact hescaped.trimmed (by decide) fun c hc => isLineEnding_of_isBlank (isBlank_of_isDigit hc)
  | blanks => exact hescaped.trimmed (by decide) fun c hc => isBlank_of_isDigit hc

end Surrounded

/-! ## places -/

/-- A value with a place for another one: the place is the value itself, or one in an item of
an array or in a field of an object. -/
inductive Place where
  | here
  | item (before : List Json) (inner : Place) (after : List Json)
  | field (before : List (String × Json)) (key : String) (inner : Place)
    (after : List (String × Json))

namespace Place

/-- The value with `v` in the place. -/
def fill : Place → Json → Json
  | here, v => v
  | item before inner after, v => .array (before ++ inner.fill v :: after)
  | field before key inner after, v => .object (before ++ (key, inner.fill v) :: after)

/-- Whether the place is in an object. -/
def inObject : Place → Bool
  | here => false
  | item _ inner _ => inner.inObject
  | field .. => true

/-- The integers that are shown exactly in the place. -/
def Exact (place : Place) (n : Int) : Prop := place.inObject = true ∨ n ≤ maxInt64

end Place

/-- The items of an array are written one by one. -/
theorem itemTexts_eq_map (items : List Json) : Json.itemTexts items = items.map Json.text := by
  induction items with
  | nil => rfl
  | cons item rest ih => rw [Json.itemTexts, ih, List.map_cons]

/-- The fields of an object are written one by one, each after its key. -/
theorem fieldTexts_eq_map (fields : List (String × Json)) : Json.fieldTexts fields =
    fields.map fun field => Json.stringText field.1 ++ ":" ++ field.2.text := by
  induction fields with
  | nil => rfl
  | cons field rest ih => rw [Json.fieldTexts, ih, List.map_cons]

/-- The items of an array are displayed one by one. -/
theorem displayItems_eq_map (items : List Json) : displayItems items = items.map display := by
  induction items with
  | nil => rfl
  | cons item rest ih => rw [displayItems, ih, List.map_cons]

/-- JSON text is exact in all places. -/
theorem surrounded_text (place : Place) :
    Surrounded (fun _ => True) fun n => (place.fill (.int n)).text := by
  induction place with
  | here => exact ⟨[], [], fun n _ => by simp [Place.fill, Json.int, Json.text, Json.numberText]⟩
  | item before inner after ih =>
    have hjoined := ih.intercalate "," (before.map Json.text) (after.map Json.text)
    simpa only [Place.fill, Json.text, itemTexts_eq_map, List.map_append, List.map_cons] using
      hjoined.between "[" "]"
  | field before key inner after ih =>
    have hfield := ih.between (Json.stringText key ++ ":") ""
    have hjoined := hfield.intercalate ","
      (before.map fun field => Json.stringText field.1 ++ ":" ++ field.2.text)
      (after.map fun field => Json.stringText field.1 ++ ":" ++ field.2.text)
    simpa only [Place.fill, Json.text, fieldTexts_eq_map, List.map_append, List.map_cons,
      String.append_empty] using hjoined.between "\x7b" "\x7d"

/-- An integer that fits into 64 bits is displayed with its digits. -/
theorem display_int {n : Int} (h : n ≤ maxInt64) : display (.int n) = toString n := by
  rw [Json.int, display, if_pos h]

/-- Integers are displayed exactly in the places that are exact. -/
theorem surrounded_display (place : Place) :
    Surrounded place.Exact fun n => display (place.fill (.int n)) := by
  induction place with
  | here =>
    refine ⟨[], [], fun n hn => ?_⟩
    obtain hbad | hle := hn
    · cases hbad
    · rw [List.nil_append, List.append_nil]
      exact congrArg String.toList (display_int hle)
  | item before inner after ih =>
    have hjoined := ih.intercalate "," (before.map display) (after.map display)
    -- the place is in an object just if it is in the item
    change Surrounded inner.Exact _
    simpa only [Place.fill, display, displayItems_eq_map, List.map_append, List.map_cons] using
      hjoined
  | field before key inner after ih =>
    have htext : Surrounded (Place.field before key inner after).Exact _ :=
      (surrounded_text (.field before key inner after)).weaken fun _ _ => trivial
    simpa only [Place.fill, display] using htext

/-! ## where integers are shown -/

/-- A marker shows an integer as it is displayed. -/
theorem valueText_int {n : Int} (h : n ≤ maxInt64) (escape : Bool) (trim : Trim) :
    valueText escape trim (.int n) = toString n := by
  have htrimmed : ∀ {p : Char → Bool}, p '-' = false → (∀ c, c.isDigit = true → p c = false) →
      trimEnds p (toString n) = toString n := fun hminus hdigits => by
    rw [trimEnds, trimChars_eq_self (not_mem_toString hminus hdigits), String.ofList_toList]
  have hescaped : (if escape then escapeHtml (toString n) else toString n) = toString n := by
    rw [escapeHtml_toString, ite_self]
  rw [valueText, display_int h, hescaped]
  cases trim with
  | none => rfl
  | lineEndings =>
    exact htrimmed (by decide) fun c hc => isLineEnding_of_isBlank (isBlank_of_isDigit hc)
  | blanks => exact htrimmed (by decide) fun c hc => isBlank_of_isDigit hc

/-- Every value but null and strings has a method for the text that it is displayed as. -/
theorem callMethod_toString {v : Json} (hv : ∀ s, v ≠ .string s) (hnull : v ≠ .null)
    (args : List Json) : callMethod v "toString" args = .ok (.string (display v)) := by
  cases v with
  | null => exact absurd rfl hnull
  | string s => exact absurd rfl (hv s)
  | _ => rfl

/-- Adding to a text is appending. -/
theorem add_of_isTextual {v w : Json} (h : (isTextual v || isTextual w) = true) :
    add v w = .string (display v ++ display w) := if_pos h

/-- **Integers are shown exactly.** The text of an integer that fits 64 bits with a sign is its
decimal numeral, in markers and as `toString` gives it; in JSON text this holds of every
integer. In a larger value, all that the items and fields around the integer add is the same
for every integer, in the value of a marker, in what `join` and `+` put together and in what
`toString` gives; so the texts of two integers differ. In objects this holds of every
integer, too. -/
theorem integers_exact (place : Place) :
    (∀ n : Int, IsNumeral n (toString n).toList ∧ (Json.int n).text = toString n ∧
      (n ≤ maxInt64 → display (.int n) = toString n ∧
        (∀ escape trim, valueText escape trim (.int n) = toString n) ∧
        ∀ args, callMethod (.int n) "toString" args = .ok (.string (toString n)))) ∧
    ShowsExactly place.Exact (fun n => display (place.fill (.int n))) ∧
    (∀ escape trim, ∃ text, ShowsExactly place.Exact text ∧
      ∀ {σ : Type} (reply : String → Json → σ → Rendering.Outcome String × σ) ctx scopes e s s₁ n,
        Gives reply s (eval ctx scopes e) (place.fill (.int n)) s₁ →
          Gives reply s (outputText ctx scopes (.value e escape trim)) (text n) s₁) ∧
    (∀ before after args, ∃ text, ShowsExactly place.Exact text ∧ ∀ n,
      callMethod (.array (before ++ place.fill (.int n) :: after)) "join" args =
        .ok (.string (text n))) ∧
    (∀ v, (∀ n, (isTextual (place.fill (.int n)) || isTextual v) = true) →
      ∃ text text', ShowsExactly place.Exact text ∧ ShowsExactly place.Exact text' ∧ ∀ n,
        add (place.fill (.int n)) v = .string (text n) ∧
        add v (place.fill (.int n)) = .string (text' n)) ∧
    ∃ text, ShowsExactly place.Exact text ∧ ∀ n args,
      callMethod (place.fill (.int n)) "toString" args = .ok (.string (text n)) := by
  have hnumeral : ∀ n : Int, IsNumeral n (toString n).toList ∧ (Json.int n).text = toString n ∧
      (n ≤ maxInt64 → display (.int n) = toString n ∧
        (∀ escape trim, valueText escape trim (.int n) = toString n) ∧
        ∀ args, callMethod (.int n) "toString" args = .ok (.string (toString n))) := by
    refine fun n => ⟨isNumeral_toString n, ?_, fun hn => ⟨display_int hn, valueText_int hn, ?_⟩⟩
    · rw [Json.int, Json.text, Json.numberText]
    · intro args
      rw [callMethod_toString (by simp [Json.int]) (by simp [Json.int]), display_int hn]
  have hshown := surrounded_display place
  refine ⟨hnumeral, hshown.showsExactly, fun escape trim => ?_, fun before after args => ?_,
    fun v hv => ?_, ?_⟩
  · exact ⟨_, (hshown.marked escape trim).showsExactly, fun reply ctx scopes e s s₁ n h =>
      gives_value h escape trim⟩
  · refine ⟨_, (hshown.intercalate (separator (args.head?.getD .null)) (before.map display)
      (after.map display)).showsExactly, fun n => ?_⟩
    rw [← List.map_cons (f := display), ← List.map_append, ← displayItems_eq_map]
    rfl
  · refine ⟨_, _, (hshown.between "" (display v)).showsExactly,
      (hshown.between (display v) "").showsExactly, fun n => ⟨?_, ?_⟩⟩
    · rw [add_of_isTextual (hv n), String.empty_append]
    · rw [add_of_isTextual (Bool.or_comm _ _ ▸ hv n), String.append_empty]
  · refine ⟨_, hshown.showsExactly, fun n args => callMethod_toString (fun s => ?_) ?_ args⟩ <;>
      cases place <;> simp [Place.fill, Json.int]

/-- An integer of 54 bits between arrays, and no other one is shown like it. -/
theorem integers_exact_nested :
    9007199254740993 ≤ maxInt64 ∧ display (.int 9007199254740993) = "9007199254740993" ∧
      ∀ n ≤ maxInt64, display (.array [.array [.int n, .null], .bool true]) =
        display (.array [.array [.int 9007199254740993, .null], .bool true]) →
          n = 9007199254740993 := by
  have hle : (9007199254740993 : Int) ≤ maxInt64 := by decide
  obtain ⟨hnumeral, ⟨-, hdistinct⟩, -⟩ :=
    integers_exact (.item [] (.item [] .here [.null]) [.bool true])
  exact ⟨hle, ((hnumeral _).2.2 hle).1, fun n hn heq => hdistinct n _ (.inr hn) (.inr hle) heq⟩

/-- The first integer that fits 64 bits only without a sign is not shown by its numeral, and
the next one is shown like it. -/
theorem not_isNumeral_of_unsigned :
    Json.Document.fits64 9223372036854775808 = true ∧
      ¬ IsNumeral 9223372036854775808 (display (.int 9223372036854775808)).toList ∧
      display (.int 9223372036854775808) = display (.int 9223372036854775809) := by
  have hshown : display (.int 9223372036854775808) = "9223372036854776000" := by decide +kernel
  refine ⟨by decide, ?_, by decide +kernel⟩
  rintro ⟨digits, heq, -, -, -, hvalue⟩
  rw [hshown] at heq
  obtain rfl : "9223372036854776000".toList = digits := heq
  exact absurd hvalue (by decide)

end Stencil.Script
