/-
The memos that calls can lead to, and what every call on one of them does.

`Memo.Reached` builds them up from the empty memo by resolutions, successful
or failing, and by clearing; along with the memo it carries the calls since it
was last empty, each with its answer. Every memo so reached is sound
(`Reached.sound`), and the rest follows: answers do not depend on the history,
a failure changes nothing, and what is remembered is what lies on the way of a
call that succeeded (`Reached.isSome_get?_iff`).
-/
import SchemaTypes.Proofs.MemoResolution
import Mathlib.Data.Set.Card

namespace SchemaTypes

/-- `Reached s calls m`: calls on the schema `s` lead from the empty memo to `m`, and `calls`
are those since the memo was last empty, with their answers and the latest first. -/
inductive Memo.Reached (s : Schema) : List (DataTypeId × Except Failure Descriptor) → Memo → Prop
  | start : Reached s [] .empty
  | resolve {calls : List (DataTypeId × Except Failure Descriptor)} {m m' : Memo}
    {id : DataTypeId} {answer : Except Failure Descriptor} (before : Reached s calls m)
    (call : s.resolve m id = some (answer, m')) : Reached s ((id, answer) :: calls) m'
  | clear {calls : List (DataTypeId × Except Failure Descriptor)} {m : Memo}
    (before : Reached s calls m) : Reached s [] m.clear

namespace Schema

variable {s : Schema} {m m' : Memo} {id x : DataTypeId}
  {calls calls' : List (DataTypeId × Except Failure Descriptor)}

/-! ## Single calls -/

theorem mem_dataTypeIds_of_resolve {r : Except Failure Descriptor × Memo} (hm : m.Sound s [])
    (h : s.resolve m id = some r) : id ∈ s.dataTypeIds := by
  rcases slot?_eq_none_or_mem hm (List.not_mem_nil (a := id)) with hslot | ⟨d, hd, rfl⟩
  · cases hd : s.dataType? id with
    | some d => exact mem_dataTypeIds.2 ⟨d, hd⟩
    | none =>
      rw [resolve] at h
      split at h
      · simp_all
      · simp_all
      · split at h <;> simp_all
  · exact (hm.right d hd).mem_dataTypeIds

/-- A call that succeeds has followed typedefs to a target and remembered the way. -/
theorem Closed.resolve_ok (h : s.Closed) (hm : m.Sound s []) {d : Descriptor}
    (hcall : s.resolve m id = some (.ok d, m')) :
    m'.Sound s [] ∧ s.Answers id (.ok d) ∧ ∃ xs z, Path s.aliased? id xs z ∧
      s.aliased? z = none ∧
      m'.descriptors.toList = m.descriptors.toList ++ s.unremembered m d.target (xs ++ [z]) := by
  rcases h.resolve hm (mem_dataTypeIds_of_resolve hm hcall) with
    ⟨xs, z, target, way, ending, m₁, hcall₁, hm₁, hnew⟩ | ⟨failure, -, m₁, hcall₁, -⟩
  · obtain ⟨hd, rfl⟩ := Prod.mk.inj (Option.some.inj (hcall.symm.trans hcall₁))
    obtain rfl := Except.ok.inj hd
    exact ⟨hm₁, .resolved way ending, xs, z, way, ending.aliased?_eq_none, hnew⟩
  · rw [hcall] at hcall₁
    simp at hcall₁

theorem Closed.resolve_error (h : s.Closed) (hm : m.Sound s []) {failure : Failure}
    (hcall : s.resolve m id = some (.error failure, m')) :
    m'.Sound s [] ∧ s.Answers id (.error failure) ∧ m'.descriptors = m.descriptors := by
  rcases h.resolve hm (mem_dataTypeIds_of_resolve hm hcall) with
    ⟨xs, z, target, -, -, m₁, hcall₁, -⟩ | ⟨failure', hanswer, m₁, hcall₁, hm₁, hsame⟩
  · rw [hcall] at hcall₁
    simp at hcall₁
  · obtain ⟨hfailure, rfl⟩ := Prod.mk.inj (Option.some.inj (hcall.symm.trans hcall₁))
    obtain rfl := Except.error.inj hfailure
    exact ⟨hm₁, hanswer, hsame⟩

theorem Closed.resolve_sound (h : s.Closed) (hm : m.Sound s []) {answer : Except Failure Descriptor}
    (hcall : s.resolve m id = some (answer, m')) : m'.Sound s [] ∧ s.Answers id answer := by
  cases answer with
  | ok d =>
    obtain ⟨hm', hanswer, -⟩ := h.resolve_ok hm hcall
    exact ⟨hm', hanswer⟩
  | error failure =>
    obtain ⟨hm', hanswer, -⟩ := h.resolve_error hm hcall
    exact ⟨hm', hanswer⟩

/-- Every data type gets an answer, with a sound memo after it. -/
theorem Closed.exists_resolve (h : s.Closed) (hm : m.Sound s []) (hid : id ∈ s.dataTypeIds) :
    ∃ answer m', s.resolve m id = some (answer, m') := by
  rcases h.resolve hm hid with
    ⟨xs, z, target, -, -, m₁, hcall, -⟩ | ⟨failure, -, m₁, hcall, -⟩
  · exact ⟨_, _, hcall⟩
  · exact ⟨_, _, hcall⟩

end Schema

/-! ## Histories -/

namespace Memo

variable {s : Schema} {m m' : Memo} {id x : DataTypeId}
  {calls calls' : List (DataTypeId × Except Failure Descriptor)}

/-- A data type lies on the way of a call that succeeded. -/
def OnResolvedWay (s : Schema) (calls : List (DataTypeId × Except Failure Descriptor))
    (x : DataTypeId) : Prop :=
  ∃ id d xs, (id, .ok d) ∈ calls ∧ Path s.aliased? id xs x

/-- What ties slots, descriptors and typedefs to each other between two calls. -/
structure Consistent (s : Schema) (m : Memo) : Prop where
  /-- No data type is marked. -/
  unmarked : ∀ x t, m.slot? x ≠ some (.inProgress t)
  /-- A slot has the place of a descriptor of its own data type. -/
  placed : ∀ x i, m.slot? x = some (.resolved i) → ∃ d, m.descriptors[i]? = some d ∧ d.origin = x
  /-- Each place is that of one data type. -/
  owned : ∀ i, i < m.size → ∃ x, m.slot? x = some (.resolved i) ∧
    ∀ y, m.slot? y = some (.resolved i) → y = x
  /-- What a remembered typedef stands for is remembered with the same target. -/
  closed : ∀ x d y, m.get? x = some d → s.aliased? x = some y →
    ∃ d', m.get? y = some d' ∧ d'.target = d.target

/-- What the calls since a memo was last empty, and they alone, leave in it. -/
structure Records (s : Schema) (calls : List (DataTypeId × Except Failure Descriptor))
    (m : Memo) : Prop where
  consistent : m.Consistent s
  /-- A success appends what was missing of its way, each data type once, from the end of the
  way on; what was there before stays in its place. -/
  appends : ∀ id d m', s.resolve m id = some (.ok d, m') → ∃ xs z,
    Path s.aliased? id xs z ∧ s.aliased? z = none ∧ (xs ++ [z]).Nodup ∧
    m'.descriptors.toList = m.descriptors.toList ++ s.unremembered m d.target (xs ++ [z])
  /-- Remembered is what lies on the way of a success. -/
  contents : ∀ x, (m.get? x).isSome ↔ OnResolvedWay s calls x
  /-- The same data types asked for in another order leave the same descriptors. -/
  unordered : ∀ calls' m', Reached s calls' m' → (calls'.map Prod.fst).Perm (calls.map Prod.fst) →
    ∀ x, m'.get? x = m.get? x
  size : m.size = Set.ncard {x | OnResolvedWay s calls x}

theorem Sound.consistent (h : m.Sound s []) : m.Consistent s where
  unmarked x t hslot := by simpa using (h.marked.1 hslot).1
  placed x i hslot := h.placed hslot
  owned i hi := by
    obtain ⟨d, hd⟩ := Schema.lt_size_iff.1 hi
    refine ⟨d.origin, h.slotted hd, fun y hy => ?_⟩
    obtain ⟨d', hd', rfl⟩ := h.placed hy
    rw [Option.some.inj (hd.symm.trans hd')]
  closed x d y hget hy := by
    obtain ⟨hd, rfl⟩ := h.get?_eq_some.1 hget
    obtain ⟨d', hd', rfl⟩ := h.closed d hd y hy
    have hanswer := (h.right d hd).of_path (.step hy (.here _))
    have hd := Except.ok.inj ((h.right d' hd').unique hanswer)
    exact ⟨d', h.get?_eq_some.2 ⟨hd', rfl⟩, by rw [hd]⟩

theorem Sound.size_eq_ncard (h : m.Sound s []) :
    m.size = Set.ncard {x | (m.get? x).isSome} := by
  have hnodup : (m.descriptors.toList.map (·.origin)).Nodup := by
    rw [List.nodup_iff_getElem?_ne_getElem?]
    intro i j hij hj heq
    obtain ⟨d, hd⟩ := Schema.lt_size_iff.1 (show j < m.descriptors.size by simpa using hj)
    simp only [List.getElem?_map, Array.getElem?_toList, hd, Option.map_some,
      Option.map_eq_some_iff] at heq
    obtain ⟨d', hd', horigin⟩ := heq
    -- Two places of one data type would both stand in its slot.
    have hslots := h.slotted hd'
    rw [horigin, h.slotted hd] at hslots
    simp at hslots
    omega
  have hset : {x | (m.get? x).isSome} = ↑(m.descriptors.toList.map (·.origin)).toFinset := by
    ext x
    simp only [Set.mem_ofPred_eq, Option.isSome_iff_exists, h.get?_eq_some]
    simp
  rw [hset, Set.ncard_coe_finset, List.toFinset_card_of_nodup hnodup]
  simp [size]

namespace Reached

theorem sound (hs : s.Closed) (hm : Reached s calls m) : m.Sound s [] := by
  induction hm with
  | start | clear => exact .empty
  | resolve _ call ih => exact (hs.resolve_sound ih call).1

theorem answers (hs : s.Closed) (hm : Reached s calls m) {answer : Except Failure Descriptor}
    (hcall : (id, answer) ∈ calls) : s.Answers id answer := by
  induction hm with
  | start | clear => simp at hcall
  | resolve before call ih =>
    rcases List.mem_cons.1 hcall with heq | hcall
    · obtain ⟨rfl, rfl⟩ := Prod.mk.inj heq
      exact (hs.resolve_sound (before.sound hs) call).2
    · exact ih hcall

/-- What is remembered is what lies on the way of a call that succeeded. -/
theorem isSome_get?_iff (hs : s.Closed) (hm : Reached s calls m) :
    (m.get? x).isSome ↔ OnResolvedWay s calls x := by
  induction hm with
  | start | clear => simp [get?, slot?_empty, OnResolvedWay, Memo.clear]
  | @resolve calls m m' id answer before call ih =>
    have hm := before.sound hs
    cases answer with
    | error failure =>
      obtain ⟨hm', -, hsame⟩ := hs.resolve_error hm call
      have hget : (m'.get? x).isSome ↔ (m.get? x).isSome := by
        simp only [Option.isSome_iff_exists, hm.get?_eq_some, hm'.get?_eq_some, hsame]
      rw [hget, ih]
      simp [OnResolvedWay]
    | ok d =>
      obtain ⟨hm', -, xs, z, way, hend, hnew⟩ := hs.resolve_ok hm call
      have hget : (m'.get? x).isSome ↔ (m.get? x).isSome ∨ x ∈ xs ++ [z] := by
        simp only [Option.isSome_iff_exists, hm.get?_eq_some, hm'.get?_eq_some]
        exact Schema.exists_origin_iff hm hnew
      have hway : x ∈ xs ++ [z] ↔ ∃ ys, Path s.aliased? id ys x :=
        ⟨way.exists_of_mem, fun h => h.elim fun _ hys => way.mem_of_end hend hys⟩
      rw [hget, ih, hway]
      simp only [OnResolvedWay, List.mem_cons, Prod.mk.injEq]
      constructor
      · rintro (⟨id', d', ys, hmem, hys⟩ | ⟨ys, hys⟩)
        · exact ⟨id', d', ys, .inr hmem, hys⟩
        · exact ⟨id, d, ys, .inl ⟨rfl, rfl⟩, hys⟩
      · rintro ⟨id', d', ys, ⟨rfl, -⟩ | hmem, hys⟩
        · exact .inr ⟨ys, hys⟩
        · exact .inl ⟨id', d', ys, hmem, hys⟩

/-- The order of the calls does not matter to what is remembered. -/
theorem get?_perm (hs : s.Closed) (hm : Reached s calls m) (hm' : Reached s calls' m')
    (hperm : (calls'.map Prod.fst).Perm (calls.map Prod.fst)) (x : DataTypeId) :
    m'.get? x = m.get? x := by
  -- A call with a handle succeeds in one history if one with that handle does in the other.
  have hway : ∀ {calls calls' : List (DataTypeId × Except Failure Descriptor)} {m m' : Memo},
      Reached s calls m → Reached s calls' m' →
      (calls'.map Prod.fst).Perm (calls.map Prod.fst) → OnResolvedWay s calls x →
      OnResolvedWay s calls' x := by
    rintro calls calls' m m' hm hm' hperm ⟨id, d, xs, hcall, hpath⟩
    obtain ⟨⟨id', answer⟩, hcall', rfl⟩ :=
      List.mem_map.1 (hperm.mem_iff.2 (List.mem_map_of_mem hcall))
    obtain rfl := (hm'.answers hs hcall').unique (hm.answers hs hcall)
    exact ⟨_, d, xs, hcall', hpath⟩
  have hsome : (m'.get? x).isSome ↔ (m.get? x).isSome := by
    rw [hm.isSome_get?_iff hs, hm'.isSome_get?_iff hs]
    exact ⟨hway hm' hm hperm.symm, hway hm hm' hperm⟩
  cases hget : m.get? x with
  | none => simpa [hget] using hsome
  | some d =>
    obtain ⟨d', hget'⟩ := Option.isSome_iff_exists.1 (hsome.2 (by simp [hget]))
    obtain ⟨hd, rfl⟩ := (hm.sound hs).get?_eq_some.1 hget
    obtain ⟨hd', horigin⟩ := (hm'.sound hs).get?_eq_some.1 hget'
    have hright := (hm'.sound hs).right d' hd'
    rw [horigin] at hright
    rw [hget', Except.ok.inj (hright.unique ((hm.sound hs).right d hd))]

end Reached

end Memo

/-! ## What every call does -/

namespace Schema

variable {s : Schema} {m m' : Memo} {id : DataTypeId}
  {calls : List (DataTypeId × Except Failure Descriptor)}

/-- **The memo does not show in the answers.** After whatever calls, each data type of a
well-formed schema gets an answer, and it is the one that following its typedefs gives. -/
theorem resolve_iff_answers (hs : s.WellFormed) (hm : Memo.Reached s calls m)
    (hid : id ∈ s.dataTypeIds) :
    ∃ answer m', s.resolve m id = some (answer, m') ∧ ∀ a, s.Answers id a ↔ a = answer := by
  have hsound := hm.sound hs.closed
  obtain ⟨answer, m', hcall⟩ := hs.closed.exists_resolve hsound hid
  have hanswer := (hs.closed.resolve_sound hsound hcall).2
  refine ⟨answer, m', hcall, fun a => ⟨fun ha => ha.unique hanswer, ?_⟩⟩
  rintro rfl
  exact hanswer

/-- The circle of the typedefs `A` and `B`, entered through the field of type `A`, is named
after `B`: the first data type that comes again is the one that `A` stands for. -/
theorem sample_circle :
    sample.Answers ⟨3⟩ (.error ⟨.recursiveTypedef, "p.B", .absent⟩) := by
  have way : Path sample.aliased? ⟨3⟩ [⟨3⟩, ⟨0⟩, ⟨1⟩] ⟨0⟩ :=
    .step rfl (.step rfl (.step rfl (.here _)))
  exact .circular way (by decide) (by decide) rfl rfl rfl

theorem sample_fails {m : Memo} (hm : Memo.Reached sample calls m) :
    ∃ m', sample.resolve m ⟨3⟩ = some (.error ⟨.recursiveTypedef, "p.B", .absent⟩, m') := by
  have hsound := hm.sound sample_wellFormed.closed
  obtain ⟨answer, m', hcall⟩ :=
    sample_wellFormed.closed.exists_resolve hsound (show ⟨3⟩ ∈ sample.dataTypeIds by decide)
  obtain rfl := (sample_wellFormed.closed.resolve_sound hsound hcall).2.unique sample_circle
  exact ⟨m', hcall⟩

theorem sample_succeeds {m : Memo} (hm : Memo.Reached sample calls m) :
    ∃ d m', sample.resolve m ⟨4⟩ = some (.ok d, m') := by
  have hsound := hm.sound sample_wellFormed.closed
  obtain ⟨answer, m', hcall⟩ :=
    sample_wellFormed.closed.exists_resolve hsound (show ⟨4⟩ ∈ sample.dataTypeIds by decide)
  have way : Path sample.aliased? ⟨4⟩ [⟨4⟩] ⟨2⟩ := .step rfl (.here _)
  have hanswer := Answers.resolved way (.elementary (by rfl) (by rfl) (by rfl))
  obtain rfl := (sample_wellFormed.closed.resolve_sound hsound hcall).2.unique hanswer
  exact ⟨_, m', hcall⟩

/-- After that failure the circle has an answer from its other side. -/
theorem resolve_iff_answers_after_failure : ∃ m, sample.WellFormed ∧
    Memo.Reached sample [(⟨3⟩, .error ⟨.recursiveTypedef, "p.B", .absent⟩)] m ∧
    ⟨1⟩ ∈ sample.dataTypeIds ∧
    ∃ answer m', sample.resolve m ⟨1⟩ = some (answer, m') ∧
      ∀ a, sample.Answers ⟨1⟩ a ↔ a = answer := by
  obtain ⟨m, hcall⟩ := sample_fails .start
  have hm := Memo.Reached.resolve .start hcall
  exact ⟨m, sample_wellFormed, hm, by decide, resolve_iff_answers sample_wellFormed hm (by decide)⟩

/-- **A failure leaves nothing behind.** The descriptors and the slots are those from before
the call, and no data type is marked. -/
theorem resolve_error_restores (hs : s.WellFormed) (hm : Memo.Reached s calls m)
    {failure : Failure} (hcall : s.resolve m id = some (.error failure, m')) :
    m'.descriptors = m.descriptors ∧ (∀ x, m'.slot? x = m.slot? x) ∧
      ∀ x t, m'.slot? x ≠ some (.inProgress t) := by
  have hsound := hm.sound hs.closed
  obtain ⟨hm', -, hsame⟩ := hs.closed.resolve_error hsound hcall
  exact ⟨hsame, hsound.slot?_congr hm' hsame, hm'.consistent.unmarked⟩

/-- The marks on the way into the circle of `A` and `B` are all taken away again. -/
theorem resolve_error_restores_circle : ∃ m', sample.WellFormed ∧
    Memo.Reached sample [] .empty ∧
    sample.resolve .empty ⟨3⟩ = some (.error ⟨.recursiveTypedef, "p.B", .absent⟩, m') ∧
    m'.descriptors = Memo.empty.descriptors ∧ (∀ x, m'.slot? x = Memo.empty.slot? x) ∧
      ∀ x t, m'.slot? x ≠ some (.inProgress t) := by
  obtain ⟨m', hcall⟩ := sample_fails .start
  exact ⟨m', sample_wellFormed, .start, hcall,
    resolve_error_restores sample_wellFormed .start hcall⟩

/-- **What a memo records.** Whatever the calls were, slots, descriptors and typedefs fit
together; a further success only appends; and the contents are settled by which data types were
asked for. -/
theorem records_of_reached (hs : s.WellFormed) (hm : Memo.Reached s calls m) :
    m.Records s calls := by
  have hsound := hm.sound hs.closed
  refine ⟨hsound.consistent, fun id d m' hcall => ?_, fun x => hm.isSome_get?_iff hs.closed,
    fun calls' m' hm' hperm => hm.get?_perm hs.closed hm' hperm, ?_⟩
  · obtain ⟨-, -, xs, z, way, hend, hnew⟩ := hs.closed.resolve_ok hsound hcall
    exact ⟨xs, z, way, hend, way.nodup_of_end hend, hnew⟩
  · rw [hsound.size_eq_ncard]
    congr 1
    ext x
    exact hm.isSome_get?_iff hs.closed

/-- A success after a failure: the integer behind `D` and the field of type `D`. -/
theorem records_of_reached_success : ∃ d m, sample.WellFormed ∧
    Memo.Reached sample [(⟨4⟩, .ok d),
      (⟨3⟩, .error ⟨.recursiveTypedef, "p.B", .absent⟩)] m ∧
    m.Records sample [(⟨4⟩, .ok d), (⟨3⟩, .error ⟨.recursiveTypedef, "p.B", .absent⟩)] := by
  obtain ⟨m, hcall⟩ := sample_fails .start
  have hm := Memo.Reached.resolve .start hcall
  obtain ⟨d, m', hcall'⟩ := sample_succeeds hm
  have hm' := Memo.Reached.resolve hm hcall'
  exact ⟨d, m', sample_wellFormed, hm', records_of_reached sample_wellFormed hm'⟩

end Schema

end SchemaTypes
