/-
Resolution through a memo gives the answer that following the typedefs gives,
and leaves the memo sound: extended by what it came by if it succeeds
(`succeeds_of_target`), as it was if it fails (`Fails`).

Each lemma is an induction on the way that the resolution takes. On a way to a
failure no data type is remembered, so every one of them is marked, asked in
its turn, and cleared again.
-/
import SchemaTypes.Proofs.MemoInvariant

namespace SchemaTypes.Schema

variable {s : Schema} {m m' : Memo} {followed : List DataTypeId} {id y z : DataTypeId}
  {xs : List DataTypeId}

/-! ## One step of the resolution -/

theorem resolve_of_mem (hm : m.Sound s followed) {d : Descriptor} (hd : d ∈ m.descriptors)
    (horigin : d.origin = id) : s.resolve m id = some (.ok d, m) := by
  subst horigin
  obtain ⟨i, hi⟩ := Array.mem_iff_getElem?.1 hd
  have hslot := hm.slotted hi
  rw [resolve]
  split <;> simp_all

theorem resolve_of_marked {t : TypedefId} {d : TypedefDecl} {name : String}
    (hslot : m.slot? id = some (.inProgress t)) (hd : s.typedef? t = some d)
    (hname : s.typedefName t = some name) :
    s.resolve m id = some (.error ⟨.recursiveTypedef, name, d.span⟩, m) := by
  rw [resolve]
  split <;> simp_all [circle]

/-- What is made of the answer for the data type behind a typedef. -/
def afterAliased (id : DataTypeId) (t : TypedefId) :
    Except Failure Descriptor × Memo → Except Failure Descriptor × Memo
  | (.error failure, m) => (.error failure, m.clearSlot id)
  | (.ok aliased, m) => (.ok ⟨id, t, aliased.target⟩, m.remember ⟨id, t, aliased.target⟩)

theorem resolve_of_slot?_eq_none {d : DataType} (hslot : m.slot? id = none)
    (hd : s.dataType? id = some d) :
    s.resolve m id = match d.form with
      | .elementary e => (s.elementaryTarget id e).map fun
        | .error failure => (.error failure, m)
        | .ok target => (.ok ⟨id, none, .elementary target⟩,
            m.remember ⟨id, none, .elementary target⟩)
      | .object c => some (.ok ⟨id, none, .object c⟩, m.remember ⟨id, none, .object c⟩)
      | .alias t => (s.typedef? t).bind fun td =>
        (s.resolve (m.mark id t) td.dataType).map (afterAliased id t) := by
  rw [resolve]
  split
  · simp_all
  · simp_all
  split
  · simp_all
  next d' hd' =>
  obtain rfl := Option.some.inj (hd.symm.trans hd')
  split
  · next e hform => exact hform ▸ rfl
  · next c hform => exact hform ▸ rfl
  next t hform =>
  split
  · next htd => simp [hform, htd]
  · next td htd =>
    simp only [hform, htd, Option.bind_some]
    rfl

theorem resolve_of_terminal_ok {target : Target} (hslot : m.slot? id = none)
    (h : Terminal s id (.ok target)) :
    s.resolve m id = some (.ok ⟨id, none, target⟩, m.remember ⟨id, none, target⟩) := by
  cases h with
  | object hd hform => simp [resolve_of_slot?_eq_none hslot hd, hform]
  | elementary hd hform htarget => simp [resolve_of_slot?_eq_none hslot hd, hform, htarget]

theorem resolve_of_terminal_error {failure : Failure} (hslot : m.slot? id = none)
    (h : Terminal s id (.error failure)) : s.resolve m id = some (.error failure, m) := by
  cases h with
  | failing hd hform hfails => simp [resolve_of_slot?_eq_none hslot hd, hform, hfails]

theorem resolve_of_alias {t : TypedefId} (hslot : m.slot? id = none) (ht : s.alias? id = some t)
    (hy : s.aliased? id = some y) :
    s.resolve m id = (s.resolve (m.mark id t) y).map (afterAliased id t) := by
  obtain ⟨d, hd, hform⟩ := alias?_eq_some.1 ht
  obtain ⟨t', td, ht', htd, rfl⟩ := aliased?_eq_some.1 hy
  obtain rfl : t = t' := Option.some.inj (ht.symm.trans ht')
  simp [resolve_of_slot?_eq_none hslot hd, hform, htd]

/-! ## Ways to a target -/

/-- The descriptors of those of several data types, all with one target, that a memo does
not have, the last one first. -/
def unremembered (s : Schema) (m : Memo) (target : Target) (xs : List DataTypeId) :
    List Descriptor :=
  (xs.filter fun x => (m.get? x).isNone).reverse.map fun x => ⟨x, s.alias? x, target⟩

theorem slot?_eq_none_or_mem (hm : m.Sound s followed) (hid : id ∉ followed) :
    m.slot? id = none ∨ ∃ d ∈ m.descriptors, d.origin = id := by
  cases hslot : m.slot? id with
  | none => exact .inl rfl
  | some slot =>
    cases slot with
    | inProgress t => exact absurd (hm.marked.1 hslot).1 hid
    | resolved i =>
      obtain ⟨d, hd, horigin⟩ := hm.placed hslot
      exact .inr ⟨d, Array.mem_of_getElem? hd, horigin⟩

theorem get?_eq_none_of_slot? (hslot : m.slot? id = none) : m.get? id = none := by
  simp [Memo.get?, hslot]

/-- When a data type is followed, the rest of its way stays free. -/
theorem free_of_cons {ws : List DataTypeId} (hid : id ∉ ws)
    (hfree : ∀ w ∈ id :: ws, w ∉ followed) : ∀ w ∈ ws, w ∉ id :: followed := by
  intro w hw
  rw [List.mem_cons, not_or]
  exact ⟨fun e => hid (e ▸ hw), hfree w (List.mem_cons_of_mem id hw)⟩

/-- Where the first data type is remembered, the whole way is. -/
theorem unremembered_eq_nil (hm : m.Sound s followed) {d : Descriptor} (hd : d ∈ m.descriptors)
    (horigin : d.origin = id) (way : Path s.aliased? id xs z) (target : Target) :
    s.unremembered m target (xs ++ [z]) = [] := by
  subst horigin
  simp only [unremembered, List.map_eq_nil_iff, List.reverse_eq_nil_iff, List.filter_eq_nil_iff]
  intro x hx hnone
  obtain ⟨ys, hys⟩ := way.exists_of_mem hx
  obtain ⟨d', hd', horigin⟩ := hm.of_path hd hys
  simp [hm.get?_eq_some.2 ⟨hd', horigin⟩] at hnone

/-- Afterwards the memo has what it had and all of these data types. -/
theorem exists_origin_iff (hm : m.Sound s followed) {target : Target}
    (hnew : m'.descriptors.toList = m.descriptors.toList ++ s.unremembered m target xs) :
    (∃ d ∈ m'.descriptors, d.origin = id) ↔ (∃ d ∈ m.descriptors, d.origin = id) ∨ id ∈ xs := by
  simp only [← Array.mem_toList_iff, hnew, List.mem_append, unremembered, List.mem_map,
    List.mem_reverse, List.mem_filter]
  constructor
  · rintro ⟨d, hd | ⟨x, ⟨hx, -⟩, rfl⟩, rfl⟩
    · exact .inl ⟨d, hd, rfl⟩
    · exact .inr hx
  · rintro (⟨d, hd, horigin⟩ | hid)
    · exact ⟨d, .inl hd, horigin⟩
    · cases hget : m.get? id with
      | some d =>
        obtain ⟨hd, horigin⟩ := hm.get?_eq_some.1 hget
        exact ⟨d, .inl (Array.mem_toList_iff.2 hd), horigin⟩
      | none => exact ⟨⟨id, s.alias? id, target⟩, .inr ⟨id, ⟨hid, by simp [hget]⟩, rfl⟩, rfl⟩

/-- Resolution succeeds with a target and remembers what the memo did not have of several data
types, the last one first. -/
def Succeeds (s : Schema) (followed : List DataTypeId) (m : Memo) (id : DataTypeId)
    (target : Target) (xs : List DataTypeId) : Prop :=
  ∃ m', s.resolve m id = some (.ok ⟨id, s.alias? id, target⟩, m') ∧ m'.Sound s followed ∧
    m'.descriptors.toList = m.descriptors.toList ++ s.unremembered m target xs

namespace Succeeds

variable {target : Target}

theorem of_mem (hm : m.Sound s followed) {d : Descriptor} (hd : d ∈ m.descriptors)
    (horigin : d.origin = id) (way : Path s.aliased? id xs z)
    (ending : Terminal s z (.ok target)) : Succeeds s followed m id target (xs ++ [z]) := by
  have hright := hm.right d hd
  rw [horigin] at hright
  obtain rfl := Except.ok.inj (hright.unique (.resolved way ending))
  refine ⟨m, resolve_of_mem hm hd rfl, hm, ?_⟩
  rw [unremembered_eq_nil hm hd rfl way, List.append_nil]

theorem of_terminal (hm : m.Sound s followed) (hfree : id ∉ followed) (hslot : m.slot? id = none)
    (ending : Terminal s id (.ok target)) : Succeeds s followed m id target [id] := by
  have hnone := ending.alias?_eq_none
  have hanswer := Answers.resolved (.here id) ending
  rw [hnone] at hanswer
  refine ⟨m.remember ⟨id, none, target⟩, ?_, ?_, ?_⟩
  · rw [hnone, resolve_of_terminal_ok hslot ending]
  · exact (hm.cons_of_alias?_eq_none hnone).remember hfree (by simp [hslot]) hanswer
      (by simp [ending.aliased?_eq_none])
  · simp [unremembered, get?_eq_none_of_slot? hslot, hnone]

/-- From the data type behind a typedef to the one that names the typedef. -/
theorem of_aliased {t : TypedefId} (hm : m.Sound s followed) (hfree : id ∉ followed)
    (hslot : m.slot? id = none) (ht : s.alias? id = some t) (hy : s.aliased? id = some y)
    (hmem : y ∈ xs) (hanswer : s.Answers id (.ok ⟨id, t, target⟩))
    (h : Succeeds s (id :: followed) (m.mark id t) y target xs) :
    Succeeds s followed m id target (id :: xs) := by
  obtain ⟨m₁, hresolve, hm₁, hnew⟩ := h
  have hmark : m₁.slot? id = some (.inProgress t) := hm₁.marked.2 ⟨List.mem_cons_self, ht⟩
  have hy₁ := (exists_origin_iff (hm.mark hslot ht) hnew).2 (.inr hmem)
  refine ⟨m₁.remember ⟨id, t, target⟩, ?_, ?_, ?_⟩
  · rw [resolve_of_alias hslot ht hy, hresolve, ht]
    rfl
  · refine hm₁.remember hfree (by simp [hmark]) hanswer ?_
    intro y' hy'
    obtain rfl := Option.some.inj (hy.symm.trans hy')
    exact hy₁
  · have hget : ∀ x, (m.mark id t).get? x = m.get? x := Memo.get?_mark hslot
    simp [hnew, unremembered, hget, get?_eq_none_of_slot? hslot, ht]

end Succeeds

/-- **Resolution on the way to a target** answers with that target and remembers what the memo
did not have of the way, from its end on. -/
theorem succeeds_of_target {target : Target} (way : Path s.aliased? id xs z)
    (ending : Terminal s z (.ok target)) (hm : m.Sound s followed)
    (hfree : ∀ x ∈ xs ++ [z], x ∉ followed) : Succeeds s followed m id target (xs ++ [z]) := by
  induction way generalizing followed m with
  | here z =>
    have hz : z ∉ followed := hfree z (by simp)
    rcases slot?_eq_none_or_mem hm hz with hslot | ⟨d, hd, horigin⟩
    · exact .of_terminal hm hz hslot ending
    · exact .of_mem hm hd horigin (.here z) ending
  | @step x y z xs link rest ih =>
    have hx : x ∉ followed := hfree x (by simp)
    rcases slot?_eq_none_or_mem hm hx with hslot | ⟨d, hd, horigin⟩
    · obtain ⟨t, ht⟩ := alias?_of_aliased? link
      have hnodup := List.nodup_cons.1
        ((Path.step link rest).nodup_of_end ending.aliased?_eq_none)
      have hanswer := Answers.resolved (.step link rest) ending
      rw [ht] at hanswer
      refine .of_aliased hm hx hslot ht link rest.mem_start hanswer ?_
      exact ih ending (hm.mark hslot ht) (free_of_cons hnodup.1 hfree)
    · exact .of_mem hm hd horigin (.step link rest) ending

/-! ## Ways to a failure -/

/-- Resolution fails and leaves the memo with what it had. -/
def Fails (s : Schema) (followed : List DataTypeId) (m : Memo) (id : DataTypeId)
    (failure : Failure) : Prop :=
  ∃ m', s.resolve m id = some (.error failure, m') ∧ m'.Sound s followed ∧
    m'.descriptors = m.descriptors

/-- A failure behind a typedef is that of the data type that names the typedef; the mark that
was set for it is gone. -/
theorem Fails.of_aliased {t : TypedefId} {failure : Failure} (hfree : id ∉ followed)
    (hslot : m.slot? id = none) (ht : s.alias? id = some t) (hy : s.aliased? id = some y)
    (h : Fails s (id :: followed) (m.mark id t) y failure) : Fails s followed m id failure := by
  obtain ⟨m₁, hresolve, hm₁, hsame⟩ := h
  refine ⟨m₁.clearSlot id, ?_, hm₁.clearSlot ht hfree, ?_⟩
  · rw [resolve_of_alias hslot ht hy, hresolve]
    rfl
  · simpa using hsame

theorem slot?_eq_none_of_failure {failure : Failure} (hm : m.Sound s followed)
    (hid : id ∉ followed) (hanswer : s.Answers id (.error failure)) : m.slot? id = none := by
  rcases slot?_eq_none_or_mem hm hid with hslot | ⟨d, hd, rfl⟩
  · exact hslot
  · cases (hm.right d hd).unique hanswer

/-- **Resolution on the way to a failing data type** fails as that one does. -/
theorem fails_of_failing {failure : Failure} (way : Path s.aliased? id xs z)
    (ending : Terminal s z (.error failure)) (hm : m.Sound s followed)
    (hfree : ∀ x ∈ xs ++ [z], x ∉ followed) : Fails s followed m id failure := by
  induction way generalizing followed m with
  | here z =>
    have hz : z ∉ followed := hfree z (by simp)
    have hslot := slot?_eq_none_of_failure hm hz (.failed (.here z) ending)
    exact ⟨m, resolve_of_terminal_error hslot ending, hm, rfl⟩
  | @step x y z xs link rest ih =>
    have hx : x ∉ followed := hfree x (by simp)
    obtain ⟨t, ht⟩ := alias?_of_aliased? link
    have hslot := slot?_eq_none_of_failure hm hx (.failed (.step link rest) ending)
    have hnodup := List.nodup_cons.1
      ((Path.step link rest).nodup_of_end ending.aliased?_eq_none)
    exact .of_aliased hx hslot ht link
      (ih ending (hm.mark hslot ht) (free_of_cons hnodup.1 hfree))

/-- **Resolution on a way that returns** fails at the first data type that it comes to again:
one that is being followed, or one that it has followed itself. -/
theorem fails_of_return {t : TypedefId} {d : TypedefDecl} {name : String}
    (way : Path s.aliased? id xs z) (fresh : xs.Nodup) (again : z ∈ xs ∨ z ∈ followed)
    (ht : s.alias? z = some t) (hd : s.typedef? t = some d) (hname : s.typedefName t = some name)
    (hanswer : ∀ x ∈ xs, ∃ failure, s.Answers x (.error failure)) (hm : m.Sound s followed)
    (hfree : ∀ x ∈ xs, x ∉ followed) :
    Fails s followed m id ⟨.recursiveTypedef, name, d.span⟩ := by
  induction way generalizing followed m with
  | here z =>
    have hz : z ∈ followed := by simpa using again
    exact ⟨m, resolve_of_marked (hm.marked.2 ⟨hz, ht⟩) hd hname, hm, rfl⟩
  | @step x y z xs link rest ih =>
    have hx : x ∉ followed := hfree x (by simp)
    obtain ⟨t', ht'⟩ := alias?_of_aliased? link
    obtain ⟨failure, hfailure⟩ := hanswer x (by simp)
    have hslot := slot?_eq_none_of_failure hm hx hfailure
    obtain ⟨hx', fresh⟩ := List.nodup_cons.1 fresh
    have again' : z ∈ xs ∨ z ∈ x :: followed := by
      rw [List.mem_cons] at again ⊢
      tauto
    exact .of_aliased hx hslot ht' link (ih fresh again' ht
      (fun w hw => hanswer w (List.mem_cons_of_mem _ hw)) (hm.mark hslot ht')
      (free_of_cons hx' hfree))

/-! ## Every way -/

/-- A way that returns passes only data types without a target. -/
theorem Closed.fails_on_return (h : s.Closed) (hid : id ∈ s.dataTypeIds)
    (way : Path s.aliased? id xs z) (again : z ∈ xs) :
    ∀ x ∈ xs, ∃ failure, s.Answers x (.error failure) := by
  intro x hx
  obtain ⟨ys, zs, -, htox, hfromx⟩ := way.split hx
  obtain ⟨answer, hanswer⟩ := h.exists_answer (h.mem_dataTypeIds_of_path hid htox)
  cases hanswer with
  | resolved way' ending =>
    exact ((htox.append way').no_return_of_end ending.aliased?_eq_none way again).elim
  | failed way' ending => exact ⟨_, .failed way' ending⟩
  | circular way' fresh' again' ht hd hname =>
    exact ⟨_, .circular way' fresh' again' ht hd hname⟩

/-- **Resolution through a sound memo.** It answers as the typedefs do. A target comes with
what the memo did not have of the way; a failure leaves the memo with what it had. -/
theorem Closed.resolve (h : s.Closed) (hm : m.Sound s []) (hid : id ∈ s.dataTypeIds) :
    (∃ xs z target, Path s.aliased? id xs z ∧ Terminal s z (.ok target) ∧
      Succeeds s [] m id target (xs ++ [z])) ∨
    (∃ failure, s.Answers id (.error failure) ∧ Fails s [] m id failure) := by
  obtain ⟨answer, hanswer⟩ := h.exists_answer hid
  cases hanswer with
  | resolved way ending =>
    exact .inl ⟨_, _, _, way, ending, succeeds_of_target way ending hm (by simp)⟩
  | failed way ending =>
    exact .inr ⟨_, .failed way ending, fails_of_failing way ending hm (by simp)⟩
  | circular way fresh again ht hd hname =>
    exact .inr ⟨_, .circular way fresh again ht hd hname, fails_of_return way fresh (.inl again)
      ht hd hname (h.fails_on_return hid way again) hm (by simp)⟩

end SchemaTypes.Schema
