import Stencil.Text.Utf8

/-!
# Stencil.Text.Html

Escaping for HTML. Five characters have a meaning in HTML text or in a quoted
attribute: `&`, `<`, `>`, `"` and the apostrophe. Each is written as its
entity, every other character as it stands.

A text is copied in slices: where a special character stands, what lies between
the one before it and this one is copied, and the entity is written. So a text
is escaped character by character (`toList_escapeHtml`).
-/

namespace Stencil.Text

/-! ## characters -/

/-- The entity of a character that has a meaning in HTML. -/
def entity? (c : Char) : Option (List Char) :=
  match c with
  | '&' => some ['&', 'a', 'm', 'p', ';']
  | '<' => some ['&', 'l', 't', ';']
  | '>' => some ['&', 'g', 't', ';']
  | '"' => some ['&', '#', '3', '4', ';']
  | '\'' => some ['&', '#', '3', '9', ';']
  | _ => none

/-- The characters that stand for `c` in HTML. -/
def htmlChar (c : Char) : List Char := (entity? c).getD [c]

/-- A special character is one octet. -/
theorem utf8Size_of_entity? {c : Char} {entity : List Char} (h : entity? c = some entity) :
    c.utf8Size = 1 := by
  unfold entity? at h
  split at h
  iterate 5 decide
  cases h

/-! ## texts -/

/-- The characters of a run, each with its offset in octets, where the run begins at
`offset`. -/
def charIndices (offset : Nat) : List Char → List (Nat × Char)
  | [] => []
  | c :: cs => (offset, c) :: charIndices (offset + c.utf8Size) cs

/-- What is left of a run of characters from the octet offset `first` on. -/
def sliceFrom (cs : List Char) (first : Nat) : List Char :=
  cs.drop ((takeOctets? first cs).getD []).length

/-- What stands in a run of characters between two octet offsets. -/
def slice (cs : List Char) (first last : Nat) : List Char :=
  sliceFrom ((takeOctets? last cs).getD []) first

/-- What is written before a character, and where the part begins that is not yet copied; and
both after the character. -/
def escapeStep (cs : List Char) (state : List Char × Nat) (entry : Nat × Char) :
    List Char × Nat :=
  match entity? entry.2 with
  | some entity => (state.1 ++ slice cs state.2 entry.1 ++ entity, entry.1 + 1)
  | none => state

/-- A text with the five special characters of HTML written as entities. One that has none is
left as it is. -/
def escapeHtml (s : String) : String :=
  let (escaped, last) := (charIndices 0 s.toList).foldl (escapeStep s.toList) ([], 0)
  if last = 0 then s else String.ofList (escaped ++ sliceFrom s.toList last)

section
variable {cs front back pending escaped : List Char}

/-- What comes after a run of characters is what is left from its end on. -/
@[simp] theorem sliceFrom_octets (front back : List Char) :
    sliceFrom (front ++ back) (octets front) = back := by
  rw [sliceFrom, takeOctets?_octets, Option.getD_some, List.drop_left]

/-- What stands between two runs of characters is what lies between their offsets. -/
@[simp] theorem slice_octets (front middle back : List Char) :
    slice (front ++ middle ++ back) (octets front) (octets (front ++ middle)) = middle := by
  rw [slice, takeOctets?_octets, Option.getD_some, sliceFrom_octets]

/-- The characters before an offset have been escaped up to the part `pending`, which is not
yet copied and in which nothing is special. -/
structure Escaping (front : List Char) (state : List Char × Nat) (pending : List Char) :
    Prop where
  split : ∃ done, front = done ++ pending ∧ state = (done.flatMap htmlChar, octets done)
  plain : pending.flatMap htmlChar = pending

/-- One more character. -/
theorem Escaping.step {state : List Char × Nat} (h : Escaping front state pending) (c : Char)
    (back : List Char) : ∃ pending',
      Escaping (front ++ [c]) (escapeStep (front ++ c :: back) state (octets front, c))
        pending' := by
  obtain ⟨done, rfl, rfl⟩ := h.split
  cases hentity : entity? c with
  | none =>
    have hchar : htmlChar c = [c] := by rw [htmlChar, hentity, Option.getD_none]
    refine ⟨pending ++ [c], ⟨done, List.append_assoc .., ?_⟩, ?_⟩
    · simp only [escapeStep, hentity]
    · rw [List.flatMap_append, h.plain, List.flatMap_singleton, hchar]
  | some entity =>
    have hchar : htmlChar c = entity := by rw [htmlChar, hentity, Option.getD_some]
    have hoctets : octets (done ++ pending ++ [c]) = octets (done ++ pending) + 1 := by
      rw [octets_append, octets_cons, octets_nil, utf8Size_of_entity? hentity]
    refine ⟨[], ⟨done ++ pending ++ [c], (List.append_nil _).symm, ?_⟩, rfl⟩
    simp only [escapeStep, hentity, slice_octets, hoctets, List.flatMap_append, h.plain,
      List.flatMap_singleton, hchar]

/-- All characters, one after the other. -/
theorem Escaping.foldl {state : List Char × Nat} (h : Escaping front state pending)
    (back : List Char) : ∃ pending', Escaping (front ++ back)
      ((charIndices (octets front) back).foldl (escapeStep (front ++ back)) state) pending' := by
  induction back generalizing front state pending with
  | nil =>
    rw [List.append_nil]
    exact ⟨pending, h⟩
  | cons c back ih =>
    obtain ⟨pending', hstep⟩ := h.step c back
    have hrest := ih hstep
    rwa [List.append_assoc, List.singleton_append, octets_append, octets_cons, octets_nil,
      Nat.add_zero] at hrest

end

/-- A text is escaped character by character. -/
@[simp] theorem toList_escapeHtml (s : String) :
    (escapeHtml s).toList = s.toList.flatMap htmlChar := by
  have hstart : Escaping [] ([], 0) [] := ⟨⟨[], rfl, rfl⟩, rfl⟩
  obtain ⟨pending, ⟨done, hsplit, hstate⟩, hplain⟩ := hstart.foldl s.toList
  rw [List.nil_append] at hsplit hstate
  have hescaped : s.toList.flatMap htmlChar = done.flatMap htmlChar ++ pending := by
    rw [hsplit, List.flatMap_append, hplain]
  simp only [escapeHtml]
  rw [octets_nil] at hstate
  rw [hstate, hescaped]
  dsimp only
  by_cases hlast : octets done = 0
  · have hnil : done = [] := by
      cases done with
      | nil => rfl
      | cons c done =>
        have hpos := c.utf8Size_pos
        rw [octets_cons] at hlast
        omega
    rw [if_pos hlast, hsplit, hnil]
    rfl
  · rw [if_neg hlast, String.toList_ofList, hsplit, sliceFrom_octets]

example : escapeHtml "é<ü>" = "é&lt;ü&gt;" := by decide +kernel

end Stencil.Text
