/-
Batches of diagnostics in the order of their places.

`StablySorted` says what it is to have brought a batch into that order: the
places ascend, and what stands at one place stands there as it did in the
batch. Only one list satisfies it (`StablySorted.unique`), the one that sorting
gives (`stablySorted_sortByPlace`). So it does not matter whether a batch is
sorted before more is put behind it (`sortByPlace_append`) or whether something
is left out before or after (`sortByPlace_filter`).
-/
import SchemaTypes.Diagnostic.Queue

namespace SchemaTypes.Diagnostic

/-! ## Places -/

/-- A diagnostic without a place stands before all others, and of two with a place the one that
starts earlier or, where both start together, ends earlier. -/
def NotAfter (d e : Diagnostic) : Prop :=
  ∀ p, d.primarySpan? = some p → ∃ q, e.primarySpan? = some q ∧
    (p.start < q.start ∨ p.start = q.start ∧ p.stop ≤ q.stop)

variable {d e f : Diagnostic}

theorem placeLe_iff : placeLe d.place e.place ↔ d.NotAfter e := by
  unfold NotAfter place
  cases d.primarySpan? <;> cases e.primarySpan? <;> simp [placeLe]

namespace NotAfter

theorem of_eq (h : d.primarySpan? = e.primarySpan?) : d.NotAfter e :=
  fun p hp => ⟨p, h ▸ hp, .inr ⟨rfl, Nat.le_refl _⟩⟩

theorem trans (h : d.NotAfter e) (h' : e.NotAfter f) : d.NotAfter f := by
  intro p hp
  obtain ⟨q, hq, hpq⟩ := h p hp
  obtain ⟨r, hr, hqr⟩ := h' q hq
  exact ⟨r, hr, by omega⟩

theorem total (d e : Diagnostic) : d.NotAfter e ∨ e.NotAfter d := by
  cases hd : d.primarySpan? with
  | none => exact .inl fun p hp => by simp [hd] at hp
  | some p =>
    cases he : e.primarySpan? with
    | none => exact .inr fun q hq => by simp [he] at hq
    | some q =>
      simp only [NotAfter, hd, he, Option.some.injEq, exists_eq_left', forall_eq']
      omega

theorem antisymm (h : d.NotAfter e) (h' : e.NotAfter d) : d.primarySpan? = e.primarySpan? := by
  cases hd : d.primarySpan? with
  | none =>
    cases he : e.primarySpan? with
    | none => rfl
    | some q =>
      obtain ⟨p, hp, -⟩ := h' q he
      simp [hd] at hp
  | some p =>
    obtain ⟨q, hq, hpq⟩ := h p hd
    obtain ⟨p', hp', hqp⟩ := h' q hq
    obtain rfl := Option.some.inj (hd.symm.trans hp')
    obtain ⟨start, stop⟩ := p
    obtain ⟨start', stop'⟩ := q
    rw [hq, Option.some.injEq, Span.mk.injEq]
    simp only at hpq hqp
    omega

end NotAfter

/-! ## Stably sorted batches -/

/-- `sorted` is a batch in the order of the places, and what stands at one place, or at none,
is in the order of the batch. -/
structure StablySorted (batch sorted : List Diagnostic) : Prop where
  ascending : sorted.Pairwise NotAfter
  sameAt : ∀ p, sorted.filter (·.primarySpan? = p) = batch.filter (·.primarySpan? = p)

variable {xs ys batch : List Diagnostic}

/-- What comes first in a list in order is not after anything in it. -/
theorem notAfter_of_mem (h : (d :: xs).Pairwise NotAfter) (he : e ∈ d :: xs) : d.NotAfter e := by
  rcases List.mem_cons.1 he with rfl | he
  · exact .of_eq rfl
  · exact List.rel_of_pairwise_cons h he

/-- Two lists in order are equal if they have the same diagnostics, in the same order, at each
place. -/
theorem eq_of_sameAt : ∀ {xs ys : List Diagnostic}, xs.Pairwise NotAfter → ys.Pairwise NotAfter →
    (∀ p, xs.filter (·.primarySpan? = p) = ys.filter (·.primarySpan? = p)) → xs = ys
  | [], [], _, _, _ => rfl
  | [], y :: ys, _, _, h => by simpa using h y.primarySpan?
  | x :: xs, [], _, _, h => by simpa using h x.primarySpan?
  | x :: xs, y :: ys, hxs, hys, h => by
    have hmem : ∀ d, d ∈ x :: xs ↔ d ∈ y :: ys := by
      intro d
      have hd : d ∈ (x :: xs).filter (·.primarySpan? = d.primarySpan?) ↔
          d ∈ (y :: ys).filter (·.primarySpan? = d.primarySpan?) := by rw [h]
      simpa [List.mem_filter] using hd
    have hle : x.NotAfter y := notAfter_of_mem hxs ((hmem y).2 List.mem_cons_self)
    have hge : y.NotAfter x := notAfter_of_mem hys ((hmem x).1 List.mem_cons_self)
    -- Both heads are the first ones at the same place.
    have hhead : x = y := by
      have hplace := h x.primarySpan?
      simp only [List.filter_cons, hle.antisymm hge, decide_true, if_true] at hplace
      exact (List.cons.inj hplace).1
    subst hhead
    have htail : ∀ p, xs.filter (·.primarySpan? = p) = ys.filter (·.primarySpan? = p) := by
      intro p
      have hp := h p
      simp only [List.filter_cons] at hp
      split at hp
      · exact (List.cons.inj hp).2
      · exact hp
    rw [eq_of_sameAt (List.pairwise_cons.1 hxs).2 (List.pairwise_cons.1 hys).2 htail]

theorem StablySorted.unique (h : StablySorted batch xs) (h' : StablySorted batch ys) : xs = ys :=
  eq_of_sameAt h.ascending h'.ascending fun p => (h.sameAt p).trans (h'.sameAt p).symm

/-! ## Sorting -/

theorem sortByPlace_perm (batch : List Diagnostic) : (sortByPlace batch).Perm batch :=
  List.mergeSort_perm batch _

/-- **Sorting by place is stable.** -/
theorem stablySorted_sortByPlace (batch : List Diagnostic) :
    StablySorted batch (sortByPlace batch) := by
  have htrans : ∀ d e f : Diagnostic, placeLe d.place e.place → placeLe e.place f.place →
      placeLe d.place f.place := by
    intro d e f hde hef
    rw [placeLe_iff] at hde hef ⊢
    exact hde.trans hef
  have htotal : ∀ d e : Diagnostic, placeLe d.place e.place || placeLe e.place d.place := by
    intro d e
    rw [Bool.or_eq_true, placeLe_iff, placeLe_iff]
    exact NotAfter.total d e
  constructor
  · exact (List.pairwise_mergeSort htrans htotal batch).imp placeLe_iff.1
  · intro p
    -- What stands at one place is in order already, so it stays one behind the other.
    have hinOrder : (batch.filter (·.primarySpan? = p)).Pairwise
        fun d e => placeLe d.place e.place := by
      rw [List.pairwise_filter]
      refine List.pairwise_of_forall fun d e hd he => ?_
      simp only [decide_eq_true_eq] at hd he
      rw [placeLe_iff]
      exact .of_eq (hd.trans he.symm)
    have hsublist := (List.sublist_mergeSort htrans htotal hinOrder List.filter_sublist).filter
      (·.primarySpan? = p)
    rw [List.filter_filter] at hsublist
    simp only [Bool.and_self] at hsublist
    exact (hsublist.eq_of_length ((sortByPlace_perm batch).filter _).length_eq.symm).symm

/-- What is put behind a sorted batch and sorted with it might as well have been put behind the
batch itself. -/
theorem sortByPlace_append (xs ys : List Diagnostic) :
    sortByPlace (sortByPlace xs ++ ys) = sortByPlace (xs ++ ys) := by
  have hsorted := stablySorted_sortByPlace (sortByPlace xs ++ ys)
  refine StablySorted.unique ⟨hsorted.ascending, fun p => ?_⟩ (stablySorted_sortByPlace _)
  rw [hsorted.sameAt, List.filter_append, List.filter_append,
    (stablySorted_sortByPlace xs).sameAt]

theorem sortByPlace_filter (keep : Diagnostic → Bool) (batch : List Diagnostic) :
    sortByPlace (batch.filter keep) = (sortByPlace batch).filter keep := by
  have hsorted := stablySorted_sortByPlace batch
  refine (stablySorted_sortByPlace (batch.filter keep)).unique
    ⟨hsorted.ascending.sublist List.filter_sublist, fun p => ?_⟩
  have hswap (ds : List Diagnostic) : (ds.filter keep).filter (·.primarySpan? = p) =
      (ds.filter (·.primarySpan? = p)).filter keep := by
    rw [List.filter_filter, List.filter_filter]
    exact List.filter_congr fun d _ => Bool.and_comm _ _
  rw [hswap, hswap, hsorted.sameAt]

end SchemaTypes.Diagnostic
