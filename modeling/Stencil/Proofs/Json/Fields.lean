import Mathlib.Data.List.Induction
import Stencil.Json.Basic

/-!
# Stencil.Proofs.Json.Fields

The fields of an object. Inserting one keeps their names in increasing order and changes
the value of that name only, so the object with given fields has each name once, in order,
with the last of its values (`ordered_collected`, `lookup_collected`).
-/

namespace Stencil.Json

/-- The names are in increasing order, each once. -/
def Ordered (fields : List (String × Json)) : Prop := fields.Pairwise fun a b => a.1 < b.1

variable {key : String} {value : Json} {fields : List (String × Json)}

/-! ## inserting a field -/

theorem names_insertField (key : String) (value : Json) (fields : List (String × Json)) :
    ∀ k, k ∈ (insertField key value fields).map Prod.fst ↔ k = key ∨ k ∈ fields.map Prod.fst := by
  intro k
  induction fields with
  | nil => simp [insertField]
  | cons first rest ih =>
    obtain ⟨name, v⟩ := first
    rw [insertField]
    split
    · simp
    split
    · next heq =>
      subst heq
      simp
    · simp only [List.map_cons, List.mem_cons, ih]
      exact or_left_comm

theorem ordered_insertField (key : String) (value : Json) (h : Ordered fields) :
    Ordered (insertField key value fields) := by
  induction fields with
  | nil => exact List.pairwise_singleton _ _
  | cons first rest ih =>
    obtain ⟨name, v⟩ := first
    obtain ⟨hfirst, hrest⟩ := List.pairwise_cons.1 h
    rw [insertField]
    split
    · next hlt =>
      refine List.pairwise_cons.2 ⟨fun other hother => ?_, h⟩
      rcases List.mem_cons.1 hother with rfl | hother
      · exact hlt
      · exact String.lt_trans hlt (hfirst other hother)
    split
    · next heq =>
      subst heq
      exact List.pairwise_cons.2 ⟨hfirst, hrest⟩
    · next hlt hne =>
      have hgt : name < key :=
        (Std.lt_trichotomy key name).resolve_left hlt |>.resolve_left hne
      refine List.pairwise_cons.2 ⟨fun other hother => ?_, ih hrest⟩
      rcases (names_insertField key value rest other.1).1 (List.mem_map_of_mem hother) with
        heq | hmem
      · exact heq ▸ hgt
      · obtain ⟨other', hother', heq⟩ := List.mem_map.1 hmem
        exact heq ▸ hfirst other' hother'

theorem lookup_cons (name : String) (v : Json) (rest : List (String × Json)) (k : String) :
    ((name, v) :: rest).lookup k = if k = name then some v else rest.lookup k := by
  rw [List.lookup_cons]
  by_cases h : k = name
  · rw [beq_iff_eq.2 h, if_pos h]
  · rw [beq_eq_false_iff_ne.2 h, if_neg h]

theorem lookup_insertField (key : String) (value : Json) (fields : List (String × Json))
    (k : String) : (insertField key value fields).lookup k =
      if k = key then some value else fields.lookup k := by
  induction fields with
  | nil => rw [insertField, lookup_cons]
  | cons first rest ih =>
    obtain ⟨name, v⟩ := first
    rw [insertField]
    split
    · rw [lookup_cons]
    split
    · next heq =>
      subst heq
      rw [lookup_cons, lookup_cons]
      split <;> rfl
    · next hne =>
      rw [lookup_cons, lookup_cons, ih]
      split
      · next heq =>
        rw [if_neg (heq ▸ Ne.symm hne)]
      · rfl

/-! ## objects -/

/-- The fields of the object that has the given ones. -/
def collected (entries : List (String × Json)) : List (String × Json) :=
  entries.foldl (fun acc (key, value) => insertField key value acc) []

theorem ofFields_eq (entries : List (String × Json)) :
    ofFields entries = .object (collected entries) :=
  rfl

theorem collected_concat (entries : List (String × Json)) (entry : String × Json) :
    collected (entries ++ [entry]) = insertField entry.1 entry.2 (collected entries) := by
  rw [collected, List.foldl_append]
  rfl

theorem ordered_collected (entries : List (String × Json)) : Ordered (collected entries) := by
  induction entries using List.reverseRecOn with
  | nil => exact .nil
  | append_singleton entries entry ih =>
    rw [collected_concat]
    exact ordered_insertField entry.1 entry.2 ih

/-- An object has the names that it was given. -/
theorem mem_names_collected (entries : List (String × Json)) (k : String) :
    k ∈ (collected entries).map Prod.fst ↔ k ∈ entries.map Prod.fst := by
  induction entries using List.reverseRecOn with
  | nil => rfl
  | append_singleton entries entry ih =>
    rw [collected_concat, names_insertField, ih]
    simp [or_comm]

/-- Under each of its names an object has the last of the values given for it. -/
theorem lookup_collected (entries : List (String × Json)) (k : String) :
    (collected entries).lookup k = entries.reverse.lookup k := by
  induction entries using List.reverseRecOn with
  | nil => rfl
  | append_singleton entries entry ih =>
    rw [collected_concat, lookup_insertField, ih, List.reverse_append]
    exact (lookup_cons entry.1 entry.2 entries.reverse k).symm

end Stencil.Json
