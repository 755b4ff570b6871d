import Stencil.Proofs.Json.Fields
import Stencil.Proofs.Number.Numerals
import Stencil.Proofs.Script.Control
import Stencil.Proofs.Text.Utf8

/-!
# Stencil.Proofs.Script.Elements

What an array, a text or an object has in it, as four parts of the language see it: a loop
over items, a loop over keys, an index and the length. They agree (`loops_index_length`).

A key of an array or a text is an integer if it is a number equal to it or its decimal
numeral (`IsIndex`). Keys of other kinds are made numbers before they are compared with the
length, and some of them count as an integer then that they are not (`Coerced`): `null`
and `false` as zero, `true` as one, and the texts that are another way to write a number.
These too give an item. No other key gives anything but `null` (`element_of_key`).
-/

namespace Stencil.Script

/-! ## keys -/

/-- The item at an integer, and `null` where there is none. -/
def itemAt (items : List Json) : Int → Json
  | .ofNat n => items[n]?.getD .null
  | .negSucc _ => .null

/-- A key that is an integer: a number equal to it, or its decimal numeral. -/
inductive IsIndex (i : Int) : Json → Prop where
  | int : IsIndex i (.int i)
  | float {x : Binary64} : x.toInt? = some i → IsIndex i (.number (.float x))
  | numeral : IsIndex i (.string (toString i))

/-- A key that is not an integer but counts as one. -/
inductive Coerced : Int → Json → Prop where
  | null : Coerced 0 .null
  | bool (b : Bool) : Coerced (if b then 1 else 0) (.bool b)
  | text {i : Int} {s : String} : (toNumber (.string s)).toInt? = some i → s ≠ toString i →
      Coerced i (.string s)

/-- Of the integers that can be positions, the one that a key is taken for is `i`, if it is
any. -/
def CountsAs (i : Int) (key : Json) : Prop :=
  ∀ n : Nat, n < Nat.pow 2 Binary64.precision → (position? key = some n ↔ i = n)

/-- A key is a position just if it counts as a natural number. -/
theorem position?_eq_some_iff {key : Json} {n : Nat} :
    position? key = some n ↔ (toNumber key).toInt? = some (n : Int) := by
  rw [position?]
  split
  · next m h =>
    rw [h, Option.some_inj, Option.some_inj]
    exact Int.ofNat_inj.symm
  · next h =>
    constructor
    · intro hnone
      cases hnone
    · intro hsome
      exact absurd hsome (h n)

/-- What a key is as a number is what it counts as. -/
theorem CountsAs.of_toInt? {key : Json} {i : Int} (h : (toNumber key).toInt? = some i) :
    CountsAs i key := by
  intro n _
  rw [position?_eq_some_iff, h, Option.some_inj]

variable {i : Int} {key : Json}

/-- An integer counts as itself, and so does its numeral. -/
theorem IsIndex.countsAs (h : IsIndex i key) : CountsAs i key := by
  intro n hn
  rw [position?_eq_some_iff]
  cases h with
  | int => exact Binary64.toInt?_ofInt_eq_iff hn
  | float hx =>
    rw [toNumber, Number.toBinary64, hx, Option.some_inj]
  | numeral => exact toInt?_toNumber_toString hn

/-- `null` counts as zero, a truth value as one or zero, and a text as the number in it. -/
theorem Coerced.countsAs (h : Coerced i key) : CountsAs i key := by
  cases h with
  | null =>
    have hzero : toNumber .null = .ofInt 0 := rfl
    exact .of_toInt? (hzero ▸ Binary64.toInt?_ofInt (by decide))
  | bool b =>
    refine .of_toInt? ?_
    rw [toNumber]
    exact Binary64.toInt?_ofInt (by cases b <;> decide)
  | text hs _ => exact .of_toInt? hs

/-- A text of white space counts as zero. -/
theorem coerced_of_isWhiteSpace {s : String}
    (h : ∀ c ∈ s.toList, Unicode.isWhiteSpace c = true) : Coerced 0 (.string s) := by
  have htrim : Text.trimChars Unicode.isWhiteSpace s.toList = [] := by
    rw [Text.trimChars, List.dropWhile_eq_nil_iff.2 h]
    rfl
  have hzero : toNumber (.string s) = .ofInt 0 := by
    rw [toNumber, htrim]
    rfl
  refine .text (hzero ▸ Binary64.toInt?_ofInt (by decide)) ?_
  rintro rfl
  have hdigit := h '0' (by decide)
  cases hdigit

theorem isLengthKey_of_ne (h : key ≠ .string "length") : isLengthKey key = false := by
  cases key with
  | string s =>
    rw [isLengthKey, beq_eq_false_iff_ne]
    rintro rfl
    exact h rfl
  | _ => rfl

theorem IsIndex.ne_length (h : IsIndex i key) : key ≠ .string "length" := by
  rintro rfl
  generalize hs : "length" = s at h
  cases h with
  | numeral =>
  have hl : 'l' ∈ (toString i).toList := by
    rw [← hs]
    decide
  rcases mem_toString 'l' hl with h | h <;> cases h

theorem Coerced.ne_length (h : Coerced i key) : key ≠ .string "length" := by
  rintro rfl
  cases h with
  | text h _ =>
    have hnone : (toNumber (.string "length")).toInt? = none := by decide +kernel
    rw [hnone] at h
    cases h

/-- A key that neither is an integer nor counts as one has no position. -/
theorem position?_eq_none (hindex : ∀ i, ¬ IsIndex i key) (hcoerced : ∀ i, ¬ Coerced i key) :
    position? key = none := by
  refine Option.eq_none_iff_forall_ne_some.2 fun n hn => ?_
  rw [position?_eq_some_iff] at hn
  cases key with
  | null => exact hcoerced 0 .null
  | bool b => exact hcoerced _ (.bool b)
  | number number =>
    cases number with
    | int m => exact hindex m .int
    | float x => exact hindex n (.float hn)
  | string s =>
    by_cases hs : s = toString (n : Int)
    · exact hindex n (hs ▸ .numeral)
    · exact hcoerced n (.text hn hs)
  | array items =>
    rw [toNumber] at hn
    cases hn
  | object fields =>
    rw [toNumber] at hn
    cases hn

/-! ## items and characters -/

variable {x : Json} {items : List Json}

/-- Out of range there is nothing. -/
theorem itemAt_eq_null (h : ¬ (0 ≤ i ∧ i < items.length)) : itemAt items i = .null := by
  cases i with
  | ofNat n =>
    have hle : items.length ≤ n := by
      have hnonneg : (0 : Int) ≤ Int.ofNat n := Int.natCast_nonneg n
      have hn : ¬ ((n : Int) < items.length) := fun hlt => h ⟨hnonneg, hlt⟩
      omega
    rw [itemAt, List.getElem?_eq_none hle]
    rfl
  | negSucc n => rfl

/-- A key of a value with items gives one of them or its length. -/
theorem property_eq_element (h : loopItems x = .ok items) (key : Json) :
    property x key = .ok (element key items) := by
  cases x with
  | array as =>
    cases h
    rfl
  | string s =>
    cases h
    rfl
  | _ => cases h

/-- The keys of a value with items are their positions. -/
theorem loopKeys_eq_positions (h : loopItems x = .ok items) :
    loopKeys x = positions items.length := by
  cases x with
  | array as =>
    cases h
    rfl
  | string s =>
    cases h
    rw [loopKeys, characters, List.length_map]
  | _ => cases h

/-- The length of a value with items is their number. -/
theorem property_length (h : loopItems x = .ok items) :
    property x (.string "length") = .ok (.int items.length) := by
  have hlength : isLengthKey (.string "length") = true := rfl
  rw [property_eq_element h, element, if_pos hlength]

/-- A key that counts as an integer gives the item at that integer. -/
theorem property_eq_itemAt (h : loopItems x = .ok items)
    (hn : items.length < Nat.pow 2 Binary64.precision) (hkey : key ≠ .string "length")
    (hi : CountsAs i key) : property x key = .ok (itemAt items i) := by
  rw [property_eq_element h, element, isLengthKey_of_ne hkey]
  by_cases hin : 0 ≤ i ∧ i < items.length
  · obtain ⟨n, rfl⟩ := Int.eq_ofNat_of_zero_le hin.1
    have hlt : n < items.length := by omega
    rw [(hi n (by omega)).2 rfl]
    rfl
  · rw [itemAt_eq_null hin]
    cases hpos : position? key with
    | none => rfl
    | some m =>
      have hle : items.length ≤ m := by
        refine Nat.le_of_not_lt fun hlt => ?_
        have heq : i = m := (hi m (by omega)).1 hpos
        omega
      rw [Option.bind_some, List.getElem?_eq_none hle]
      rfl

/-- The items are the values at the keys, in order. -/
theorem map_property_loopKeys (h : loopItems x = .ok items)
    (hn : items.length < Nat.pow 2 Binary64.precision) :
    (loopKeys x).map (property x) = items.map .ok := by
  rw [loopKeys_eq_positions h]
  refine List.ext_getElem (by simp [positions]) fun n hleft hright => ?_
  have hlt : n < items.length := by simpa using hright
  have hproperty : property x (.int n) = .ok (itemAt items n) :=
    property_eq_itemAt h hn IsIndex.int.ne_length IsIndex.int.countsAs
  have hitem : itemAt items n = items[n] := by
    change items[n]?.getD .null = items[n]
    rw [List.getElem?_eq_getElem hlt]
    rfl
  simp [positions, hproperty, hitem]

/-! ## loops -/

/-- A turn of a loop: its body, with a variable of its own. -/
def turn (outputs : List Output) (ctx : Context) (name : String) (body : Stmt) (frame : Frame)
    (value : Json) : Rendering Frame :=
  inScope [(name, value)] (exec outputs ctx body) frame

/-- **Loops, indices and the length agree.** A loop takes one turn for each item, or for
each key, of the value that it runs over. The keys of an array or a text are the numbers
from zero on, as many as its length says, and the values at them are its items in order; at
any other integer it has `null`. The keys of an object are the names of its fields in the
order of their octets, each once, and under every name it has the value that was stored
last, or `null`. -/
theorem loops_index_length :
    (∀ outputs ctx name e body frame,
      exec outputs ctx (.forOf name e body) frame = (do
        let x ← eval ctx frame.scopes e
        let items ← ofResult (loopItems x)
        items.foldlM (turn outputs ctx name body) frame) ∧
      exec outputs ctx (.forIn name e body) frame = (do
        let x ← eval ctx frame.scopes e
        (loopKeys x).foldlM (turn outputs ctx name body) frame)) ∧
    (∀ x items, loopItems x = .ok items → items.length < Nat.pow 2 Binary64.precision →
      loopKeys x = (List.range items.length).map (fun n : Nat => .int n) ∧
      (loopKeys x).map (property x) = items.map .ok ∧
      property x (.string "length") = .ok (.int items.length) ∧
      ∀ i key, IsIndex i key → ¬ (0 ≤ i ∧ i < items.length) → property x key = .ok .null) ∧
    ∀ entries, ∃ names : List String,
      loopKeys (.ofFields entries) = names.map .string ∧
      names.Pairwise (fun a b => Text.utf8 a < Text.utf8 b) ∧
      (∀ name, name ∈ names ↔ name ∈ entries.map Prod.fst) ∧
      ∀ name, property (.ofFields entries) (.string name) =
        .ok ((entries.reverse.lookup name).getD .null) := by
  refine ⟨fun outputs ctx name e body frame => ?_, fun x items h hn => ?_, fun entries => ?_⟩
  · simp only [exec_forOf, exec_forIn, turns_eq_foldlM]
    exact ⟨rfl, rfl⟩
  · refine ⟨loopKeys_eq_positions h, map_property_loopKeys h hn, property_length h,
      fun i key hkey hout => ?_⟩
    rw [property_eq_itemAt h hn hkey.ne_length hkey.countsAs, itemAt_eq_null hout]
  · refine ⟨(Json.collected entries).map Prod.fst, ?_, ?_, Json.mem_names_collected entries,
      fun name => ?_⟩
    · rw [Json.ofFields_eq, loopKeys, List.map_map]
      rfl
    · rw [List.pairwise_map]
      exact (Json.ordered_collected entries).imp Text.utf8_lt_utf8_iff.2
    · rw [Json.ofFields_eq, property, display, Json.field, Json.lookup_collected]

/-- A text has its characters, however many octets they take. -/
theorem loops_index_length_text :
    loopItems (.string "nß!") = .ok [.string "n", .string "ß", .string "!"] ∧
      [Json.string "n", .string "ß", .string "!"].length < Nat.pow 2 Binary64.precision ∧
      IsIndex 3 (.int 3) ∧ ¬ (0 ≤ (3 : Int) ∧ (3 : Int) < 3) ∧
      loopKeys (.string "nß!") = [.int 0, .int 1, .int 2] ∧
      (loopKeys (.string "nß!")).map (property (.string "nß!")) =
        [.ok (.string "n"), .ok (.string "ß"), .ok (.string "!")] ∧
      property (.string "nß!") (.string "length") = .ok (.int 3) ∧
      property (.string "nß!") (.int 3) = .ok .null := by
  have hitems : loopItems (.string "nß!") = .ok [.string "n", .string "ß", .string "!"] := rfl
  have hn : [Json.string "n", .string "ß", .string "!"].length < Nat.pow 2 Binary64.precision := by
    decide
  have hout : ¬ (0 ≤ (3 : Int) ∧ (3 : Int) < 3) := by decide
  obtain ⟨hkeys, hvalues, hlength, hnull⟩ := loops_index_length.2.1 _ _ hitems hn
  exact ⟨hitems, hn, .int, hout, hkeys, hvalues, hlength, hnull 3 _ .int hout⟩

/-! ## every key -/

/-- **What every key gives.** An array or a text gives its length under the key `length`,
and at an integer the item there is, or `null`. So it does for a key that only counts as an
integer: `null` and `false` give the first item, `true` the second one, and a text that is
read as a number the item at it. Every other key gives `null`. -/
theorem element_of_key {x : Json} {items : List Json} (h : loopItems x = .ok items)
    (hn : items.length < Nat.pow 2 Binary64.precision) :
    (∀ i key, IsIndex i key → property x key = .ok (itemAt items i)) ∧
    property x (.string "length") = .ok (.int items.length) ∧
    (∀ i key, Coerced i key → property x key = .ok (itemAt items i)) ∧
    ∀ key, key ≠ .string "length" → (∀ i, ¬ IsIndex i key) → (∀ i, ¬ Coerced i key) →
      property x key = .ok .null := by
  refine ⟨fun i key hkey => property_eq_itemAt h hn hkey.ne_length hkey.countsAs,
    property_length h, fun i key hkey => property_eq_itemAt h hn hkey.ne_length hkey.countsAs,
    fun key hkey hindex hcoerced => ?_⟩
  rw [property_eq_element h, element, isLengthKey_of_ne hkey, position?_eq_none hindex hcoerced]
  rfl

/-- The keys of an array of two items. -/
theorem element_of_key_pair :
    loopItems (.array [.string "a", .string "b"]) = .ok [.string "a", .string "b"] ∧
      [Json.string "a", .string "b"].length < Nat.pow 2 Binary64.precision ∧
      property (.array [.string "a", .string "b"]) (.int 1) = .ok (.string "b") ∧
      property (.array [.string "a", .string "b"]) (.string "1") = .ok (.string "b") ∧
      property (.array [.string "a", .string "b"]) (.int (-1)) = .ok .null ∧
      property (.array [.string "a", .string "b"]) (.string "length") = .ok (.int 2) ∧
      property (.array [.string "a", .string "b"]) .null = .ok (.string "a") ∧
      property (.array [.string "a", .string "b"]) (.bool true) = .ok (.string "b") ∧
      property (.array [.string "a", .string "b"]) (.string " ") = .ok (.string "a") ∧
      property (.array [.string "a", .string "b"]) (.array []) = .ok .null := by
  have hitems : loopItems (.array [.string "a", .string "b"]) = .ok [.string "a", .string "b"] :=
    rfl
  have hn : [Json.string "a", .string "b"].length < Nat.pow 2 Binary64.precision := by decide
  have hspace : ∀ c ∈ " ".toList, Unicode.isWhiteSpace c = true := by
    intro c hc
    obtain rfl : c = ' ' := by simpa using hc
    decide
  obtain ⟨hindex, hlength, hcoerced, hnull⟩ := element_of_key hitems hn
  refine ⟨hitems, hn, hindex 1 _ .int, hindex 1 _ .numeral, hindex (-1) _ .int, hlength,
    hcoerced 0 _ .null, hcoerced 1 _ (.bool true),
    hcoerced 0 _ (coerced_of_isWhiteSpace hspace), hnull _ (by rintro ⟨⟩) ?_ ?_⟩
  · rintro i ⟨⟩
  · rintro i ⟨⟩

/-- A key that is missing itself gives the first item. -/
theorem not_null_of_missing_key :
    ¬ ∀ x items key, loopItems x = .ok items → items.length < Nat.pow 2 Binary64.precision →
      key ≠ .string "length" → (∀ i, ¬ IsIndex i key) → property x key = .ok .null := by
  intro h
  have hitems : loopItems (.array [.string "a", .string "b"]) = .ok [.string "a", .string "b"] :=
    rfl
  have hn : [Json.string "a", .string "b"].length < Nat.pow 2 Binary64.precision := by decide
  have hnull := h _ _ .null hitems hn (by rintro ⟨⟩) (by rintro i ⟨⟩)
  have hfirst : property (.array [.string "a", .string "b"]) .null = .ok (.string "a") :=
    property_eq_itemAt hitems hn Coerced.null.ne_length Coerced.null.countsAs
  rw [hfirst] at hnull
  cases hnull

end Stencil.Script
