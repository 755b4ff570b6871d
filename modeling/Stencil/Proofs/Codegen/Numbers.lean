import Stencil.Codegen.Lexer
import Stencil.Proofs.Text.Find

/-!
# Stencil.Proofs.Codegen.Numbers

Words and numbers in front of a character that goes on with no token (`Divides`), such as
a round bracket. Every reader of a part of them stops there, so it reads what it reads
where the code ends.
-/

namespace Stencil.Codegen

open Text Unicode

/-- A character that goes on with no token. -/
structure Divides (x : Char) : Prop where
  part : isXidContinue x = false
  start : isWordStart x = false
  digit : isDigitOrGap x = false
  value : hexValue? x = none
  mark : isMark x = false
  quote : x ≠ '"'

/-- An opening bracket goes on with no token. -/
theorem divides_opening : Divides '(' :=
  ⟨by decide, by decide, by decide, by decide, by decide, by decide⟩

/-- A closing bracket goes on with no token either. -/
theorem divides_closing : Divides ')' :=
  ⟨by decide, by decide, by decide, by decide, by decide, by decide⟩

/-- A character that goes on with no token is no mark. -/
theorem Divides.ne_of_isMark {x m : Char} (hx : Divides x) (hm : isMark m = true) : x ≠ m := by
  rintro rfl
  exact absurd hm (by simp [hx.mark])

/-- It is no part of a word. -/
theorem Divides.ne_of_isXidContinue {x c : Char} (hx : Divides x) (hc : isXidContinue c = true) :
    x ≠ c := by
  rintro rfl
  exact absurd hc (by simp [hx.part])

/-- It is no digit. -/
theorem Divides.isDigit {x : Char} (hx : Divides x) : x.isDigit = false :=
  (Bool.or_eq_false_iff.1 hx.digit).1

/-- It is no gap between digits. -/
theorem Divides.gap {x : Char} (hx : Divides x) : (x == '_') = false :=
  (Bool.or_eq_false_iff.1 hx.digit).2

/-! ## words -/

/-- What is read in front does not depend on what is behind. -/
theorem before_append (cs rest more : List Char) :
    before (cs ++ more) (rest ++ more) = before cs rest := by
  have hlen : (cs ++ more).length - (rest ++ more).length = cs.length - rest.length := by
    simp only [List.length_append]
    omega
  rw [before, before, hlen, List.take_append_of_le_length (Nat.sub_le _ _)]

/-- Without the sign of a raw word a word is a plain one. -/
theorem afterWord?_of_not_raw {cs : List Char} (h : ¬ ['r', '#'] <+: cs) :
    afterWord? cs = afterPlainWord? cs := by
  unfold afterWord?
  split
  · exact absurd ⟨_, rfl⟩ h
  · rfl

/-- A word begins with a character that may begin one. -/
theorem isWordStart_of_afterWord? {c : Char} {cs rest : List Char}
    (h : afterWord? (c :: cs) = some rest) : isWordStart c = true := by
  by_cases hraw : ['r', '#'] <+: c :: cs
  · rw [← (List.cons_prefix_cons.1 hraw).1]
    decide
  · rw [afterWord?_of_not_raw hraw, afterPlainWord?] at h
    split at h
    · next hstart => exact hstart
    · cases h

section
variable {x : Char} (hx : Divides x) (cs more : List Char)
include hx

/-- A word stops where the code stops. -/
theorem afterPlainWord?_append :
    afterPlainWord? (cs ++ x :: more) = (afterPlainWord? cs).map (· ++ x :: more) := by
  cases cs with
  | nil => simp [afterPlainWord?, hx.start]
  | cons c cs =>
    rw [List.cons_append, afterPlainWord?, afterPlainWord?, dropWhile_append_cons hx.part]
    split <;> rfl

/-- So does the suffix of a literal. -/
theorem afterSuffix_append : afterSuffix (cs ++ x :: more) = afterSuffix cs ++ x :: more := by
  rw [afterSuffix, afterSuffix, afterPlainWord?_append hx]
  cases afterPlainWord? cs <;> rfl

/-- So does a word that may be a raw one. -/
theorem afterWord?_append :
    afterWord? (cs ++ x :: more) = (afterWord? cs).map (· ++ x :: more) := by
  have hsign : x ∉ ['r', '#'] := by
    simpa using ⟨hx.ne_of_isXidContinue (c := 'r') (by decide),
      hx.ne_of_isMark (m := '#') (by decide)⟩
  by_cases hraw : ['r', '#'] <+: cs
  · obtain ⟨rest, rfl⟩ := hraw
    simp only [List.cons_append, List.nil_append, afterWord?, afterPlainWord?_append hx]
    cases afterPlainWord? rest with
    | none => rfl
    | some after =>
      simp only [Option.map_some, Option.bind_eq_bind, Option.bind_some, before_append]
      split <;> rfl
  · have hraw' := mt (isPrefix_append_cons_iff hsign cs more).1 hraw
    rw [afterWord?_of_not_raw hraw, afterWord?_of_not_raw hraw', afterPlainWord?_append hx]

end

/-! ## numbers -/

/-- What follows the sign of an exponent, if there is one. -/
def afterSign : List Char → List Char
  | '+' :: rest => rest.dropWhile (· == '_')
  | '-' :: rest => rest.dropWhile (· == '_')
  | cs => cs

/-- What follows an exponent after the digits behind the point, if there is one. -/
def afterPlaces : List Char → List Char
  | c :: after =>
    if c == 'e' || c == 'E' then (afterExponent? after).getD (c :: after) else c :: after
  | [] => []

/-- What follows a number of which the point comes before `rest`. -/
def afterPoint? (rest : List Char) : Option (List Char) :=
  if rest.head?.any fun c => c == '.' || isWordStart c then none
  else some (afterPlaces (rest.dropWhile isDigitOrGap))

/-- A fraction has a point, or an exponent, after its first digits. -/
theorem afterFraction?_eq (cs : List Char) :
    afterFraction? cs =
      match cs.dropWhile isDigitOrGap with
      | '.' :: rest => afterPoint? rest
      | c :: after => if c == 'e' || c == 'E' then afterExponent? after else none
      | [] => none := by
  unfold afterFraction?
  generalize cs.dropWhile isDigitOrGap = ds
  split
  · next rest =>
    simp only [afterPoint?]
    split
    · rfl
    · cases rest.dropWhile isDigitOrGap with
      | nil => rfl
      | cons c after =>
        dsimp only [afterPlaces]
        split <;> rfl
  · next c after hc => simp
  · rfl

/-- An exponent has a digit after its sign. -/
theorem afterExponent?_eq (cs : List Char) :
    afterExponent? cs =
      if (afterSign (cs.dropWhile (· == '_'))).head?.any Char.isDigit
        then some ((afterSign (cs.dropWhile (· == '_'))).dropWhile isDigitOrGap) else none := rfl

/-- Without the letter of a base an integer is decimal. -/
theorem afterInteger?_of_decimal {cs : List Char}
    (h : ¬ ∃ d ∈ ['x', 'o', 'b'], ['0', d] <+: cs) : afterInteger? cs = afterDigits? 10 cs := by
  unfold afterInteger?
  split
  · exact absurd ⟨'x', by simp, _, rfl⟩ h
  · exact absurd ⟨'o', by simp, _, rfl⟩ h
  · exact absurd ⟨'b', by simp, _, rfl⟩ h
  · rfl

section
variable {x : Char} (hx : Divides x) (cs more : List Char)
include hx

/-- The digits at the front, of which there has to be one. -/
theorem digits_append :
    (if (cs ++ x :: more).head?.any Char.isDigit
      then some ((cs ++ x :: more).dropWhile isDigitOrGap) else none) =
    (if cs.head?.any Char.isDigit then some (cs.dropWhile isDigitOrGap) else none).map
      (· ++ x :: more) := by
  rw [dropWhile_append_cons hx.digit]
  cases cs with
  | nil => simp [hx.isDigit]
  | cons c cs => cases h : c.isDigit <;> simp [h]

/-- Gaps between digits stop where the code stops. -/
theorem gaps_append :
    (cs ++ x :: more).dropWhile (· == '_') = cs.dropWhile (· == '_') ++ x :: more :=
  dropWhile_append_cons (p := fun c => c == '_') hx.gap cs more

/-- So does a sign. -/
theorem afterSign_append : afterSign (cs ++ x :: more) = afterSign cs ++ x :: more := by
  cases cs with
  | nil =>
    have hplus := hx.ne_of_isMark (m := '+') (by decide)
    have hminus := hx.ne_of_isMark (m := '-') (by decide)
    simp [afterSign, hplus, hminus]
  | cons c cs =>
    by_cases hplus : c = '+'
    · subst hplus
      exact gaps_append hx cs more
    by_cases hminus : c = '-'
    · subst hminus
      exact gaps_append hx cs more
    simp [afterSign, hplus, hminus]

/-- So does an exponent. -/
theorem afterExponent?_append :
    afterExponent? (cs ++ x :: more) = (afterExponent? cs).map (· ++ x :: more) := by
  rw [afterExponent?_eq, afterExponent?_eq, gaps_append hx, afterSign_append hx]
  exact digits_append hx _ more

/-- So do the digits after a point. -/
theorem afterPlaces_append : afterPlaces (cs ++ x :: more) = afterPlaces cs ++ x :: more := by
  have he := hx.ne_of_isXidContinue (c := 'e') (by decide)
  have hE := hx.ne_of_isXidContinue (c := 'E') (by decide)
  cases cs with
  | nil => simp [afterPlaces, he, hE]
  | cons c cs =>
    rw [List.cons_append, afterPlaces, afterPlaces, afterExponent?_append hx]
    split
    · cases afterExponent? cs <;> rfl
    · rfl

/-- So does what comes after the digits in front of a point. -/
theorem afterPoint?_append :
    afterPoint? (cs ++ x :: more) = (afterPoint? cs).map (· ++ x :: more) := by
  have hpoint := hx.ne_of_isMark (m := '.') (by decide)
  have hhead : ((cs ++ x :: more).head?.any fun c => c == '.' || isWordStart c) =
      cs.head?.any fun c => c == '.' || isWordStart c := by
    cases cs with
    | nil => simp [hpoint, hx.start]
    | cons c cs => rfl
  rw [afterPoint?, afterPoint?, hhead, dropWhile_append_cons hx.digit, afterPlaces_append hx]
  split <;> rfl

/-- So does a fraction. -/
theorem afterFraction?_append :
    afterFraction? (cs ++ x :: more) = (afterFraction? cs).map (· ++ x :: more) := by
  rw [afterFraction?_eq, afterFraction?_eq, dropWhile_append_cons hx.digit]
  generalize cs.dropWhile isDigitOrGap = ds
  cases ds with
  | nil =>
    have hpoint := hx.ne_of_isMark (m := '.') (by decide)
    have he := hx.ne_of_isXidContinue (c := 'e') (by decide)
    have hE := hx.ne_of_isXidContinue (c := 'E') (by decide)
    simp [he, hE]
  | cons d ds =>
    by_cases hd : d = '.'
    · subst hd
      exact afterPoint?_append hx ds more
    · simp only [List.cons_append, afterExponent?_append hx]
      split <;> rfl

/-- So do the digits of an integer. -/
theorem afterDigits?_append (base : Nat) :
    afterDigits? base (cs ++ x :: more) = (afterDigits? base cs).map (· ++ x :: more) := by
  have hnone : (isDigitOrGap x || (hexValue? x).any (· < base)) = false := by
    rw [hx.digit, hx.value]
    rfl
  unfold afterDigits?
  dsimp only
  rw [takeWhile_append_cons (p := fun c => isDigitOrGap c || (hexValue? c).any (· < base)) hnone]
  split
  · rfl
  split
  · rfl
  · have hle := (List.takeWhile_prefix (l := cs)
      fun c => isDigitOrGap c || (hexValue? c).any (· < base)).length_le
    rw [List.drop_append_of_le_length hle]
    rfl

/-- So does an integer. -/
theorem afterInteger?_append :
    afterInteger? (cs ++ x :: more) = (afterInteger? cs).map (· ++ x :: more) := by
  by_cases hbase : ∃ d ∈ ['x', 'o', 'b'], ['0', d] <+: cs
  · obtain ⟨d, hd, rest, rfl⟩ := hbase
    simp only [List.mem_cons, List.not_mem_nil, or_false] at hd
    obtain rfl | rfl | rfl := hd <;> exact afterDigits?_append hx rest more _
  · have hpart : ∀ d ∈ ['0', 'x', 'o', 'b'], isXidContinue d = true :=
      forall_mem_of_all (by decide)
    have hbase' : ¬ ∃ d ∈ ['x', 'o', 'b'], ['0', d] <+: cs ++ x :: more := by
      rintro ⟨d, hd, hprefix⟩
      have hmem : x ∉ ['0', d] := by
        simpa using ⟨hx.ne_of_isXidContinue (hpart '0' (by simp)),
          hx.ne_of_isXidContinue (hpart d (List.mem_cons_of_mem _ hd))⟩
      exact hbase ⟨d, hd, (isPrefix_append_cons_iff hmem cs more).1 hprefix⟩
    rw [afterInteger?_of_decimal hbase, afterInteger?_of_decimal hbase',
      afterDigits?_append hx]

/-- So does the suffix of a number. -/
theorem afterNumberSuffix?_append :
    afterNumberSuffix? (cs ++ x :: more) = (afterNumberSuffix? cs).map (· ++ x :: more) := by
  unfold afterNumberSuffix?
  dsimp only
  rw [afterSuffix_append hx]
  cases afterSuffix cs with
  | nil => simp [hx.part]
  | cons c cs =>
    simp only [List.cons_append, List.head?_cons]
    cases h : isXidContinue c <;> simp [h]

/-- A number stops where the code stops. -/
theorem afterNumber?_append :
    afterNumber? (cs ++ x :: more) = (afterNumber? cs).map (· ++ x :: more) := by
  have hsuffix : ∀ after? : Option (List Char),
      (after?.map (· ++ x :: more)).bind afterNumberSuffix? =
        (after?.bind afterNumberSuffix?).map (· ++ x :: more) := by
    intro after?
    cases after? with
    | none => rfl
    | some after => exact afterNumberSuffix?_append hx after more
  rw [afterNumber?, afterNumber?, afterFraction?_append hx, afterInteger?_append hx, hsuffix,
    hsuffix]
  cases (afterFraction? cs).bind afterNumberSuffix? <;> rfl

end

end Stencil.Codegen
