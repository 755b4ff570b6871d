import Stencil.Codegen.StringLiteral
import Stencil.Proofs.Text.Find

/-!
# Stencil.Proofs.Codegen.Strings

The end of a string is seen by the string itself: a reader that finds it reads the same
whatever follows (`readCooked?_append`, `readRaw?_append`).
-/

namespace Stencil.Codegen

open Text

/-! ## escapes -/

theorem twoDigits?_append {cs : List Char} {n : Nat} (h : twoDigits? cs = some n)
    (more : List Char) : twoDigits? (cs ++ more) = some n ∧ 2 ≤ cs.length := by
  match cs with
  | [] | [_] => cases h
  | _ :: _ :: _ => exact ⟨h, by simp⟩

theorem bracedCodePoint?_append {cs : List Char} {c : Char} {n : Nat}
    (h : bracedCodePoint? cs = some (c, n)) (more : List Char) :
    bracedCodePoint? (cs ++ more) = some (c, n) ∧ n ≤ cs.length := by
  unfold bracedCodePoint? at h
  split at h
  · next rest =>
    obtain ⟨⟨inner, after⟩, hcut, hread⟩ := Option.bind_eq_some_iff.1 h
    have hcut' := cutAt?_append hcut more
    have hlen := congrArg List.length (eq_append_of_cutAt? hcut)
    simp only [List.cons_append, bracedCodePoint?, hcut', Option.bind_eq_bind, Option.bind_some]
    refine ⟨hread, ?_⟩
    dsimp only at hread
    split at hread
    · cases hread
    · obtain ⟨m, -, hread⟩ := Option.bind_eq_some_iff.1 hread
      obtain ⟨d, -, hread⟩ := Option.bind_eq_some_iff.1 hread
      obtain ⟨-, rfl⟩ := Prod.mk.inj (Option.some.inj hread)
      simp only [List.length_append, List.length_cons] at hlen ⊢
      omega
  · cases h

/-- An escape is the same whatever follows it. -/
theorem escape?_append {kind : StringKind} {cs : List Char} {c : Char} {n : Nat}
    (h : escape? kind cs = some (c, n)) (more : List Char) :
    escape? kind (cs ++ more) = some (c, n) ∧ n ≤ cs.length := by
  unfold escape? at h
  split at h
  case h_8 rest =>
    obtain ⟨m, hm, hread⟩ := Option.bind_eq_some_iff.1 h
    obtain ⟨hm', hlen⟩ := twoDigits?_append hm more
    have hn : n = 3 := by
      revert hread
      cases kind <;> simp <;> intros <;> omega
    simp only [List.cons_append, escape?, hm', Option.bind_eq_bind, Option.bind_some]
    refine ⟨hread, ?_⟩
    rw [hn, List.length_cons]
    omega
  case h_9 rest =>
    obtain ⟨⟨d, m⟩, hm, hread⟩ := Option.bind_eq_some_iff.1 h
    obtain ⟨hm', hlen⟩ := bracedCodePoint?_append hm more
    have hn : n = m + 1 := by
      revert hread
      cases kind <;> simp <;> intros <;> omega
    simp only [List.cons_append, escape?, hm', Option.bind_eq_bind, Option.bind_some]
    refine ⟨hread, ?_⟩
    rw [hn, List.length_cons]
    omega
  case h_7 =>
    split at h
    · cases h
    · next hkind =>
      obtain ⟨rfl, rfl⟩ := Prod.mk.inj (Option.some.inj h)
      simp [escape?, hkind]
  case h_10 => cases h
  all_goals
    obtain ⟨rfl, rfl⟩ := Prod.mk.inj (Option.some.inj h)
    simp [escape?]

/-! ## strings -/

theorem skipBlanks?_append {cs rest : List Char} (h : skipBlanks? cs = some rest)
    (hne : rest ≠ []) (more : List Char) : skipBlanks? (cs ++ more) = some (rest ++ more) := by
  fun_induction skipBlanks? cs with
  | case1 _ ih | case2 _ ih | case3 _ ih | case4 _ ih => exact ih h
  | case5 => cases h
  | case6 cs hspace htab hfeed hpair hreturn =>
    obtain rfl := Option.some.inj h
    cases cs with
    | nil => exact absurd rfl hne
    | cons c cs =>
      rw [List.cons_append, skipBlanks?.eq_6]
      all_goals (intros; simp_all)

/-- A string is read up to the quote that ends it, whatever follows. -/
theorem readCooked?_append {kind : StringKind} {cs value rest : List Char}
    (h : readCooked? kind cs = some (value, rest)) (more : List Char) :
    readCooked? kind (cs ++ more) = some (value, rest ++ more) := by
  have hpush : ∀ {inner inner' : List Char} {c : Char} {value rest : List Char},
      (∀ {value rest}, readCooked? kind inner = some (value, rest) →
        readCooked? kind inner' = some (value, rest ++ more)) →
      (readCooked? kind inner).map (fun read => (c :: read.1, read.2)) = some (value, rest) →
      (readCooked? kind inner').map (fun read => (c :: read.1, read.2)) =
        some (value, rest ++ more) := by
    intro inner inner' c value rest ih h
    obtain ⟨⟨value', rest'⟩, hread, heq⟩ := Option.map_eq_some_iff.1 h
    obtain ⟨rfl, rfl⟩ := Prod.mk.inj heq
    rw [ih hread, Option.map_some]
  fun_induction readCooked? kind cs generalizing value rest with
  | case1 | case4 | case6 | case8 | case10 => cases h
  | case2 rest =>
    obtain ⟨rfl, rfl⟩ := Prod.mk.inj (Option.some.inj h)
    rw [List.cons_append, readCooked?]
  | case3 rest ih =>
    rw [List.cons_append, List.cons_append, readCooked?]
    exact hpush ih h
  | case5 front hbreak after hskip ih =>
    have hne : after ≠ [] := by
      rintro rfl
      rw [readCooked?] at h
      cases h
    have hhead : (front ++ more).head? = front.head? := by
      cases front with
      | nil => simp at hbreak
      | cons c front => rfl
    rw [List.cons_append, readCooked?, hhead, if_pos hbreak]
    have hskip' := skipBlanks?_append hskip hne more
    split
    · next hsome =>
      obtain rfl := Option.some.inj (hskip'.symm.trans hsome)
      exact ih h
    · next hnone => rw [hskip'] at hnone; cases hnone
  | case7 front hbreak c n hescape ih =>
    obtain ⟨hescape', hle⟩ := escape?_append hescape more
    have hhead : (front ++ more).head? = front.head? := by
      cases front with
      | nil => cases hescape
      | cons c front => rfl
    rw [List.cons_append, readCooked?, hhead, if_neg hbreak, hescape']
    dsimp only
    rw [List.drop_append_of_le_length hle]
    exact hpush ih h
  | case9 c front hquote hpair hreturn hslash hadmits ih =>
    rw [List.cons_append, readCooked?, if_pos hadmits]
    · exact hpush ih h
    all_goals (intros; simp_all)

theorem readRaw?_append {kind : StringKind} {cs value rest : List Char}
    (h : readRaw? kind cs = some (value, rest)) (more : List Char) :
    readRaw? kind (cs ++ more) = some (value, rest ++ more) := by
  unfold readRaw? at h
  dsimp only at h
  split at h
  · next front hquote =>
    -- The run of number signs ends at the quote.
    have hlen : (cs.takeWhile (· == '#')).length ≠ cs.length := by
      have hcs := congrArg List.length (List.takeWhile_append_dropWhile (p := (· == '#')) (l := cs))
      rw [hquote, List.length_append, List.length_cons] at hcs
      omega
    have htake : (cs ++ more).takeWhile (· == '#') = cs.takeWhile (· == '#') := by
      rw [List.takeWhile_append, if_neg hlen]
    have hdrop : (cs ++ more).dropWhile (· == '#') = '"' :: (front ++ more) := by
      rw [List.dropWhile_append, hquote]
      rfl
    split at h
    · cases h
    · next hfence =>
      split at h
      · next inner after hcut =>
        rw [readRaw?, htake, hdrop]
        simp only [if_neg hfence, cutAt?_append hcut more]
        split at h
        · next hadmits =>
          obtain ⟨rfl, rfl⟩ := Prod.mk.inj (Option.some.inj h)
          rw [if_pos hadmits]
        · cases h
      · cases h
  · cases h

end Stencil.Codegen
