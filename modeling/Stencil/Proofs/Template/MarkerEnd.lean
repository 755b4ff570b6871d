import Stencil.Proofs.Template.Lossless

/-!
# Stencil.Proofs.Template.MarkerEnd

Where the markers of a template end. The octets after an opening delimiter are
read with quoted regions, and bare occurrences of the closing delimiter are the
ones that lie outside of them:

1. a marker ends with a bare occurrence;
2. it does not end after a bare occurrence that is fresh, that is, one at the
   front or after an octet that the delimiter does not have;
3. if the delimiter is one octet repeated, freshness does not matter, so the
   marker ends with the first bare occurrence.

`Closes` says so of octets that hold the end of a marker, and `NeverCloses` of
those that do not. `segments_close` says that the markers of every template end
like this, and that so does an opening delimiter that is left as text.
-/

namespace Stencil.Scan

open Quotation (BareAt bareAt_append bareAt_iff)
open Text

/-! ## occurrences -/

/-- The octet in front of the place `i`, if there is one, is not in the closing
delimiter. -/
def Fresh (closing bs : List UInt8) (i : Nat) : Prop :=
  ∀ b, (bs.take i).getLast? = some b → b ∉ closing

/-- A marker whose opening delimiter stands in front of the octets `bs` ends after
`n` of them. -/
structure Closes (closing bs : List UInt8) (n : Nat) : Prop where
  within : n ≤ bs.length
  spelled : ∃ i, BareAt closing bs i ∧ n = i + closing.length
  fresh : ∀ i, BareAt closing bs i → Fresh closing bs i → n ≤ i + closing.length
  repeated : ∀ k c, closing = List.replicate k c →
    ∀ i, BareAt closing bs i → n ≤ i + closing.length

/-- A marker whose opening delimiter stands in front of the octets `bs` does not
end. -/
structure NeverCloses (closing bs : List UInt8) : Prop where
  fresh : ∀ i, BareAt closing bs i → ¬ Fresh closing bs i
  repeated : ∀ k c, closing = List.replicate k c → ∀ i, ¬ BareAt closing bs i

/-! ## the machine -/

section
variable {closing bs : List UInt8} {i : Nat}

/-- The machine stops no later than at a fresh occurrence. -/
theorem stops_of_fresh (hne : closing ≠ []) (h : BareAt closing bs i)
    (hfresh : Fresh closing bs i) :
    ∃ n ≤ i + closing.length, closedAfter? closing (.outside closing) bs = some n := by
  obtain ⟨before, rest, rfl, rfl, hbefore, hbare⟩ := (bareAt_iff hne).1 h
  refine closedAfter?_le_of_fresh hne hbefore hbare (fun b hb => hfresh b ?_) rest
  rwa [List.append_assoc, List.take_left]

/-- The machine stops no later than at any occurrence of one octet repeated. -/
theorem stops_of_replicate (hne : closing ≠ []) (h : BareAt closing bs i) {k : Nat}
    {c : UInt8} (hclosing : closing = List.replicate k c) :
    ∃ n ≤ i + closing.length, closedAfter? closing (.outside closing) bs = some n := by
  obtain ⟨before, rest, rfl, rfl, hbefore, hbare⟩ := (bareAt_iff hne).1 h
  subst hclosing
  have hk : k ≠ 0 := by
    rintro rfl
    exact hne rfl
  have hc : isQuote c = false := hbare c (List.mem_replicate.2 ⟨hk, rfl⟩)
  rw [List.length_replicate]
  exact closedAfter?_le_of_replicate hk hbefore hc rest

theorem closes_of_closedAfter? (hne : closing ≠ []) {n : Nat}
    (h : closedAfter? closing (.outside closing) bs = some n) : Closes closing bs n := by
  have hle : ∀ {i}, (∃ n' ≤ i + closing.length,
      closedAfter? closing (.outside closing) bs = some n') → n ≤ i + closing.length := by
    rintro i ⟨n', hle, hn'⟩
    rw [h] at hn'
    obtain rfl : n = n' := by injection hn'
    exact hle
  refine ⟨(closedAfter?_bounds h).2, ?_, fun i hi hfresh => hle (stops_of_fresh hne hi hfresh),
    fun k c hclosing i hi => hle (stops_of_replicate hne hi hclosing)⟩
  obtain ⟨inner, rest, rfl, rfl, hinner, hbare⟩ := exists_of_closedAfter? hne h
  exact ⟨inner.length, bareAt_append hinner hbare, rfl⟩

theorem neverCloses_of_closedAfter? (hne : closing ≠ [])
    (h : closedAfter? closing (.outside closing) bs = none) : NeverCloses closing bs := by
  constructor
  · intro i hi hfresh
    obtain ⟨n, -, hn⟩ := stops_of_fresh hne hi hfresh
    rw [h] at hn
    cases hn
  · intro k c hclosing i hi
    obtain ⟨n, -, hn⟩ := stops_of_replicate hne hi hclosing
    rw [h] at hn
    cases hn

end

/-! ## templates -/

/-- The text that is left at the end is the end of the template, and what follows
its first opening delimiter does not close. -/
theorem Lossless.neverCloses {d : Delimiters} {source bs : List UInt8} {segments : List Segment}
    (h : Lossless d source bs segments) (hbs : bs <:+ source) {t : String}
    (ht : segments.getLast? = some (.text t)) {before rest : List UInt8}
    (heq : utf8 t = before ++ utf8 d.opening ++ rest)
    (hfirst : FirstAt (utf8 d.opening) (utf8 t) before.length) :
    rest <:+ source ∧ NeverCloses (utf8 d.closing) rest := by
  constructor
  · obtain ⟨others, rfl⟩ := List.getLast?_eq_some_iff.1 ht
    have hjoined := h.joined
    rw [List.flatMap_append, List.flatMap_singleton, Segment.octets, heq] at hjoined
    have hrest : rest <:+ bs := by
      rw [← hjoined, ← List.append_assoc]
      exact List.suffix_append _ _
    exact hrest.trans hbs
  · rcases h.final t ht with hnone | ⟨before', rest', heq', hfirst', hclosed⟩
    · refine absurd ⟨before, rest, ?_⟩ hnone
      exact heq.symm
    · have hcut := cutAt?_eq_some_iff.2 ⟨heq, hfirst⟩
      rw [cutAt?_eq_some_iff.2 ⟨heq', hfirst'⟩] at hcut
      obtain ⟨rfl, rfl⟩ : before' = before ∧ rest' = rest := by simpa using hcut
      exact neverCloses_of_closedAfter? (utf8_closing_ne d) hclosed

/-- **Where markers end.** Every marker of a template ends with a bare occurrence
of the closing delimiter, and after no fresh one, nor after any one if the
delimiter is one octet repeated. Up to the end of the template there is no such
occurrence after an opening delimiter that is left as text. -/
theorem segments_close (d : Delimiters) (source : String) :
    (∀ m ∈ markers (segments d source), ∃ rest n,
      (utf8 source).drop m.start = utf8 d.opening ++ rest ∧
      m.stop = m.start + (utf8 d.opening).length + n ∧
      Closes (utf8 d.closing) rest n) ∧
    ∀ t, (segments d source).getLast? = some (.text t) → ∀ before rest,
      utf8 t = before ++ utf8 d.opening ++ rest →
      FirstAt (utf8 d.opening) (utf8 t) before.length →
      rest <:+ utf8 source ∧ NeverCloses (utf8 d.closing) rest := by
  obtain ⟨hbody, front, hsource, hfront⟩ := body_spec source
  constructor
  · intro m hm
    obtain ⟨before, inner, tail, heq, rfl, hclosed⟩ :=
      (scanned_segments d source).exists_of_mem_markers hm
    refine ⟨inner ++ utf8 d.closing ++ tail, inner.length + (utf8 d.closing).length, ?_, ?_,
      closes_of_closedAfter? (utf8_closing_ne d) hclosed⟩
    · rw [start_markerAt, hsource, heq, ← hfront, List.drop_length_add_append, List.append_assoc,
        List.drop_left]
    · simp only [start_markerAt, stop_markerAt]
      omega
  · intro t ht before rest heq hfirst
    refine (lossless_segments d source).neverCloses ?_ ht heq hfirst
    rw [hsource, hbody]
    exact List.suffix_append _ _

end Stencil.Scan
