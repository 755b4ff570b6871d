import Stencil.Proofs.Text.Find
import Stencil.Text.Html

/-!
# Stencil.Proofs.Text.Html

Escaping for HTML is safe and can be undone. `entities` is the table of the five
entities and `unescapeHtml` reads a text with it, from left to right. Both are
given without a look at how a text is escaped.

1. What a character is escaped to holds nothing special, and an ampersand only
   at the front of an entity (`eq_ampersand_of_mem_htmlChar`, `entity_of_suffix`).
2. It is read as the character again, whatever follows (`unescapeChars_htmlChar`).
3. Texts are escaped character by character, so both hold of all of a text
   (`escapeHtml_safe_reversible`).
-/

namespace Stencil.Text

/-! ## entities -/

/-- The entities and the characters that they stand for. -/
def entities : List (String × Char) :=
  [("&amp;", '&'), ("&lt;", '<'), ("&gt;", '>'), ("&#34;", '"'), ("&#39;", '\'')]

/-- The characters that HTML gives a meaning. -/
def specials : List Char := entities.map Prod.snd

/-- An entity begins with an ampersand, and nothing else in it is special. -/
theorem exists_tail_of_mem_entities {entity : String} {c : Char} (h : (entity, c) ∈ entities) :
    ∃ tail, entity.toList = '&' :: tail ∧ ∀ d ∈ tail, d ∉ specials := by
  have hfixed : ∀ entry ∈ entities, entry.1.toList.head? = some '&' := by decide
  have hrest : ∀ d ∈ entities.flatMap fun entry => entry.1.toList.tail, d ∉ specials :=
    forall_mem_of_all (by decide)
  obtain ⟨tail, heq⟩ := List.head?_eq_some_iff.1 (hfixed _ h)
  refine ⟨tail, heq, fun d hd => hrest d (List.mem_flatMap.2 ⟨_, h, ?_⟩)⟩
  rw [heq]
  exact hd

/-- The character that an entity at the front stands for, and what follows the entity. -/
def readEntity? (cs : List Char) : Option (Char × List Char) :=
  entities.findSome? fun (entity, c) => (afterPrefix? entity.toList cs).map (c, ·)

theorem length_lt_of_readEntity? {cs rest : List Char} {c : Char}
    (h : readEntity? cs = some (c, rest)) : rest.length < cs.length := by
  obtain ⟨⟨entity, d⟩, hmem, hread⟩ := List.exists_of_findSome?_eq_some h
  obtain ⟨after, hafter, heq⟩ := Option.map_eq_some_iff.1 hread
  obtain ⟨-, rfl⟩ := Prod.mk.inj heq
  obtain ⟨tail, htail, -⟩ := exists_tail_of_mem_entities hmem
  rw [eq_append_of_afterPrefix? hafter, htail]
  simp only [List.length_append, List.length_cons]
  omega

/-- Characters with the entities among them read, from left to right. -/
def unescapeChars : List Char → List Char
  | [] => []
  | c :: cs =>
    match _h : readEntity? (c :: cs) with
    | some (d, rest) => d :: unescapeChars rest
    | none => c :: unescapeChars cs
termination_by cs => cs.length
decreasing_by
  · exact length_lt_of_readEntity? _h
  · simp

/-- A text with the entities in it read. -/
def unescapeHtml (s : String) : String := String.ofList (unescapeChars s.toList)

/-! ## characters -/

/-- A special character is written as its entity. -/
theorem htmlChar_of_mem : ∀ entry ∈ entities, htmlChar entry.2 = entry.1.toList := by decide

/-- Any other character is written as it stands. -/
theorem htmlChar_of_not_mem {c : Char} (hc : c ∉ specials) : htmlChar c = [c] := by
  have hnone : entity? c = none := by
    unfold entity?
    split <;> first | rfl | exact absurd (by decide) hc
  rw [htmlChar, hnone, Option.getD_none]

theorem exists_entity_of_mem {c : Char} (hc : c ∈ specials) :
    ∃ entity, (entity, c) ∈ entities ∧ htmlChar c = entity.toList := by
  obtain ⟨⟨entity, d⟩, hmem, rfl⟩ := List.mem_map.1 hc
  exact ⟨entity, hmem, htmlChar_of_mem _ hmem⟩

/-- What a character is escaped to holds nothing special but ampersands. -/
theorem eq_ampersand_of_mem_htmlChar {c d : Char} (hd : d ∈ htmlChar c) (hspecial : d ∈ specials) :
    d = '&' := by
  by_cases hc : c ∈ specials
  · obtain ⟨entity, hmem, hchar⟩ := exists_entity_of_mem hc
    obtain ⟨tail, htail, hrest⟩ := exists_tail_of_mem_entities hmem
    rw [hchar, htail, List.mem_cons] at hd
    exact hd.resolve_right fun h => hrest d h hspecial
  · rw [htmlChar_of_not_mem hc, List.mem_singleton] at hd
    exact absurd (hd ▸ hspecial) hc

/-- A place behind the front part, if that does not have the character there. -/
theorem suffix_of_suffix_append {x : Char} {rest front back : List Char} (hx : x ∉ front)
    (h : x :: rest <:+ front ++ back) : x :: rest <:+ back := by
  induction front with
  | nil => exact h
  | cons c front ih =>
    rw [List.mem_cons, not_or] at hx
    rw [List.cons_append, List.suffix_cons_iff] at h
    exact ih hx.2 (h.resolve_left fun heq => hx.1 (List.cons.inj heq).1)

/-- An ampersand where a character is escaped is the front of an entity. -/
theorem entity_of_suffix {c : Char} {rest back : List Char}
    (h : '&' :: rest <:+ htmlChar c ++ back) :
    (∃ entry ∈ entities, entry.1.toList <+: '&' :: rest) ∨ '&' :: rest <:+ back := by
  by_cases hc : c ∈ specials
  · obtain ⟨entity, hmem, hchar⟩ := exists_entity_of_mem hc
    obtain ⟨tail, htail, hrest⟩ := exists_tail_of_mem_entities hmem
    rw [hchar, htail, List.cons_append, List.suffix_cons_iff] at h
    rcases h with heq | hsuffix
    · refine .inl ⟨_, hmem, ?_⟩
      rw [heq, htail, ← List.cons_append]
      exact List.prefix_append _ _
    · exact .inr (suffix_of_suffix_append (fun hand => hrest _ hand (by decide)) hsuffix)
  · rw [htmlChar_of_not_mem hc] at h
    have hne : '&' ≠ c := by
      rintro rfl
      exact hc (by decide)
    exact .inr (suffix_of_suffix_append (by simpa using hne) h)

theorem readEntity?_of_ne {c : Char} (hc : c ≠ '&') (cs : List Char) :
    readEntity? (c :: cs) = none := by
  rw [readEntity?, List.findSome?_eq_none_iff]
  rintro ⟨entity, d⟩ hmem
  obtain ⟨tail, htail, -⟩ := exists_tail_of_mem_entities hmem
  simp [htail, afterPrefix?, Ne.symm hc]

/-- No entity begins another one, so each is read as the character that it stands for. -/
theorem readEntity?_entity : ∀ entry ∈ entities, ∀ rest,
    readEntity? (entry.1.toList ++ rest) = some (entry.2, rest) := by
  simp only [entities, List.forall_mem_cons]
  exact ⟨fun _ => rfl, fun _ => rfl, fun _ => rfl, fun _ => rfl, fun _ => rfl,
    List.forall_mem_nil _⟩

/-- What a character is escaped to is read as the character, whatever follows. -/
theorem unescapeChars_htmlChar (c : Char) (rest : List Char) :
    unescapeChars (htmlChar c ++ rest) = c :: unescapeChars rest := by
  by_cases hc : c ∈ specials
  · obtain ⟨entity, hmem, hchar⟩ := exists_entity_of_mem hc
    obtain ⟨tail, htail, -⟩ := exists_tail_of_mem_entities hmem
    have hread := readEntity?_entity _ hmem rest
    rw [htail, List.cons_append] at hread
    rw [hchar, htail, List.cons_append, unescapeChars, hread]
  · have hne : c ≠ '&' := by
      rintro rfl
      exact hc (by decide)
    rw [htmlChar_of_not_mem hc, List.singleton_append, unescapeChars, readEntity?_of_ne hne]

/-! ## texts -/

/-- The only special characters of an escaped text are ampersands. -/
theorem eq_ampersand_of_mem_escapeHtml {s : String} {c : Char} (h : c ∈ (escapeHtml s).toList)
    (hspecial : c ∈ specials) : c = '&' := by
  rw [toList_escapeHtml] at h
  obtain ⟨d, -, hmem⟩ := List.mem_flatMap.1 h
  exact eq_ampersand_of_mem_htmlChar hmem hspecial

/-- Every ampersand of an escaped text is the front of an entity. -/
theorem exists_entity_of_suffix {s : String} {rest : List Char}
    (h : '&' :: rest <:+ (escapeHtml s).toList) :
    ∃ entry ∈ entities, entry.1.toList <+: '&' :: rest := by
  rw [toList_escapeHtml] at h
  generalize s.toList = cs at h
  induction cs with
  | nil => cases List.suffix_nil.1 h
  | cons c cs ih => exact (entity_of_suffix h).elim id ih

/-- Reading the entities undoes escaping. -/
theorem unescapeHtml_escapeHtml (s : String) : unescapeHtml (escapeHtml s) = s := by
  have hchars : ∀ cs : List Char, unescapeChars (cs.flatMap htmlChar) = cs := by
    intro cs
    induction cs with
    | nil => rw [List.flatMap_nil, unescapeChars]
    | cons c cs ih => rw [List.flatMap_cons, unescapeChars_htmlChar, ih]
  rw [unescapeHtml, toList_escapeHtml, hchars, String.ofList_toList]

theorem escapeHtml_append (s t : String) : escapeHtml (s ++ t) = escapeHtml s ++ escapeHtml t := by
  apply String.toList_inj.1
  simp only [toList_escapeHtml, String.toList_append, List.flatMap_append]

/-- Escaping makes a text no shorter, and longer where it has a special character. -/
theorem length_le_length_flatMap (cs : List Char) :
    cs.length ≤ (cs.flatMap htmlChar).length := by
  induction cs with
  | nil => exact Nat.le_refl _
  | cons c cs ih =>
    have hpos : 0 < (htmlChar c).length := by
      by_cases hc : c ∈ specials
      · obtain ⟨entity, hmem, hchar⟩ := exists_entity_of_mem hc
        obtain ⟨tail, htail, -⟩ := exists_tail_of_mem_entities hmem
        rw [hchar, htail]
        exact Nat.succ_pos _
      · rw [htmlChar_of_not_mem hc]
        exact Nat.one_pos
    rw [List.flatMap_cons, List.length_append, List.length_cons]
    omega

/-- The texts that are written as they stand. -/
theorem escapeHtml_eq_self_iff {s : String} :
    escapeHtml s = s ↔ ∀ c ∈ s.toList, c ∉ specials := by
  rw [← String.toList_inj, toList_escapeHtml]
  induction s.toList with
  | nil => simp
  | cons c cs ih =>
    rw [List.flatMap_cons, List.forall_mem_cons, ← ih]
    by_cases hc : c ∈ specials
    · have hgrown : ∀ entry ∈ entities, 1 < entry.1.toList.length := by decide
      obtain ⟨entity, hmem, hchar⟩ := exists_entity_of_mem hc
      refine iff_of_false (fun h => ?_) fun h => h.1 hc
      have hlen := congrArg List.length h
      have hle := length_le_length_flatMap cs
      have hentity := hgrown _ hmem
      rw [hchar, List.length_append, List.length_cons] at hlen
      dsimp only at hentity
      omega
    · simp [htmlChar_of_not_mem hc, hc]

/-- **Escaping is safe and reversible.** An escaped text has no angle bracket and no
quote, and each ampersand in it begins an entity. Reading the entities from left to
right gives the text back, so no two texts are escaped alike. A text is escaped piece
by piece, and it is written as it stands exactly if nothing in it is special. -/
theorem escapeHtml_safe_reversible (a b : String) :
    (∀ c ∈ ['<', '>', '"', '\''], c ∉ (escapeHtml a).toList) ∧
    (∀ rest, '&' :: rest <:+ (escapeHtml a).toList →
      ∃ entry ∈ entities, entry.1.toList <+: '&' :: rest) ∧
    unescapeHtml (escapeHtml a) = a ∧
    (escapeHtml a = escapeHtml b ↔ a = b) ∧
    escapeHtml (a ++ b) = escapeHtml a ++ escapeHtml b ∧
    (escapeHtml a = a ↔ ∀ c ∈ a.toList, c ∉ specials) := by
  have hspecial : ∀ c ∈ ['<', '>', '"', '\''], c ∈ specials ∧ c ≠ '&' :=
    forall_mem_of_all (by decide)
  refine ⟨fun c hc hmem => ?_, fun rest => exists_entity_of_suffix, unescapeHtml_escapeHtml a,
    ⟨fun h => ?_, congrArg escapeHtml⟩, escapeHtml_append a b, escapeHtml_eq_self_iff⟩
  · exact (hspecial c hc).2 (eq_ampersand_of_mem_escapeHtml hmem (hspecial c hc).1)
  · rw [← unescapeHtml_escapeHtml a, h, unescapeHtml_escapeHtml]

end Stencil.Text
