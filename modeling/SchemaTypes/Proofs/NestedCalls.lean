/-
How deep the calls of a resolution are nested, whatever the memo holds.

`Descent` has a rule for each way that a call can go. Nothing in the rules
bounds the nesting: a call that follows a typedef marks its data type and
makes another call. So a call that ends is one with a descent, and that each
has one (`exists_descent`) is due to the marks alone. They are never set
twice on the way down, for a call on a marked data type follows nothing;
hence the typedefs that are followed are those of different data types, all
without a slot before (`Descent.isOpenAlias`).
-/
import SchemaTypes.Proofs.MemoResolution

namespace SchemaTypes

namespace Schema

/-- What is made of the outcome for a scalar. -/
def afterScalar (m : Memo) (id : DataTypeId) :
    Except Failure ElementaryTarget → Except Failure Descriptor × Memo
  | .error failure => (.error failure, m)
  | .ok target => (.ok ⟨id, none, .elementary target⟩, m.remember ⟨id, none, .elementary target⟩)

/-- A call of the resolution and those nested in it, from the outermost on: the typedefs of the
data types `followed` are followed, and at `last` is the innermost call. -/
inductive Descent (s : Schema) : Memo → DataTypeId → List DataTypeId → DataTypeId →
    Option (Except Failure Descriptor × Memo) → Prop
  | remembered {m : Memo} {id : DataTypeId} {place : Nat}
    (hslot : m.slot? id = some (.resolved place)) :
    Descent s m id [] id ((m.descriptors[place]?).map fun found => (.ok found, m))
  | marked {m : Memo} {id : DataTypeId} {t : TypedefId}
    (hslot : m.slot? id = some (.inProgress t)) :
    Descent s m id [] id ((s.circle t).map fun failure => (.error failure, m))
  | dangling {m : Memo} {id : DataTypeId} (hslot : m.slot? id = none)
    (hd : s.dataType? id = none) : Descent s m id [] id none
  | elementary {m : Memo} {id : DataTypeId} {d : DataType} {e : Elementary}
    (hslot : m.slot? id = none) (hd : s.dataType? id = some d) (hform : d.form = .elementary e) :
    Descent s m id [] id ((s.elementaryTarget id e).map (afterScalar m id))
  | object {m : Memo} {id : DataTypeId} {d : DataType} {c : ClassId}
    (hslot : m.slot? id = none) (hd : s.dataType? id = some d) (hform : d.form = .object c) :
    Descent s m id [] id (some (.ok ⟨id, none, .object c⟩, m.remember ⟨id, none, .object c⟩))
  | danglingTypedef {m : Memo} {id : DataTypeId} {d : DataType} {t : TypedefId}
    (hslot : m.slot? id = none) (hd : s.dataType? id = some d) (hform : d.form = .alias t)
    (htd : s.typedef? t = none) : Descent s m id [] id none
  | follow {m : Memo} {id last : DataTypeId} {d : DataType} {t : TypedefId} {td : TypedefDecl}
    {followed : List DataTypeId} {outcome : Option (Except Failure Descriptor × Memo)}
    (hslot : m.slot? id = none) (hd : s.dataType? id = some d) (hform : d.form = .alias t)
    (htd : s.typedef? t = some td)
    (inner : Descent s (m.mark id t) td.dataType followed last outcome) :
    Descent s m id (id :: followed) last (outcome.map (afterAliased id t))

variable {s : Schema} {m : Memo} {id last last' : DataTypeId} {followed followed' : List DataTypeId}
  {outcome outcome' : Option (Except Failure Descriptor × Memo)}

/-! ## Each call has one descent -/

/-- **Every call ends**, and its outcome is that of the resolution. -/
theorem exists_descent (s : Schema) (m : Memo) (id : DataTypeId) :
    ∃ followed last, Descent s m id followed last (s.resolve m id) := by
  fun_induction s.resolve m id with
  | case1 m id place hslot => exact ⟨_, _, .remembered hslot⟩
  | case2 m id t hslot => exact ⟨_, _, .marked hslot⟩
  | case3 m id hslot hd => exact ⟨_, _, .dangling hslot hd⟩
  | case4 m id hslot d hd e hform => exact ⟨_, _, .elementary hslot hd hform⟩
  | case5 m id hslot d hd c hform => exact ⟨_, _, .object hslot hd hform⟩
  | case6 m id hslot d hd t hform htd => exact ⟨_, _, .danglingTypedef hslot hd hform htd⟩
  | case7 m id hslot d hd t hform td htd hless ih =>
    obtain ⟨followed, last, inner⟩ := ih
    exact ⟨_, _, .follow hslot hd hform htd inner⟩

theorem Descent.unique (h : Descent s m id followed last outcome)
    (h' : Descent s m id followed' last' outcome') :
    followed' = followed ∧ last' = last ∧ outcome' = outcome := by
  induction h generalizing followed' last' outcome' with
  | remembered hslot => cases h' <;> simp_all
  | marked hslot => cases h' <;> simp_all
  | dangling hslot hd => cases h' <;> simp_all
  | elementary hslot hd hform => cases h' <;> simp_all
  | object hslot hd hform => cases h' <;> simp_all
  | danglingTypedef hslot hd hform htd => cases h' <;> simp_all
  | follow hslot hd hform htd inner ih =>
    cases h' with
    | follow hslot' hd' hform' htd' inner' =>
      obtain rfl := Option.some.inj (hd.symm.trans hd')
      obtain rfl := TypeForm.alias.inj (hform.symm.trans hform')
      obtain rfl := Option.some.inj (htd.symm.trans htd')
      obtain ⟨rfl, rfl, rfl⟩ := ih inner'
      exact ⟨rfl, rfl, rfl⟩
    | remembered hslot' | marked hslot' | dangling hslot' hd' | elementary hslot' hd' hform'
    | object hslot' hd' hform' | danglingTypedef hslot' hd' hform' htd' => simp_all

/-! ## How far down -/

namespace Descent

/-- Only aliases without a slot are followed. -/
theorem isOpenAlias (h : Descent s m id followed last outcome) :
    ∀ x ∈ followed, s.isOpenAlias m x := by
  induction h with
  | follow hslot hd hform htd inner ih =>
    intro x hx
    rcases List.mem_cons.1 hx with rfl | hx
    · simp [Schema.isOpenAlias, hd, hform, hslot, TypeForm.isAlias]
    · exact isOpenAlias_of_mark (ih x hx)
  | _ => simp

/-- No data type is followed twice, since it is marked from the first time on. -/
theorem nodup (h : Descent s m id followed last outcome) : followed.Nodup := by
  induction h with
  | follow hslot hd hform htd inner ih =>
    refine List.nodup_cons.2 ⟨fun hmem => ?_, ih⟩
    have hopen := inner.isOpenAlias _ hmem
    simp [Schema.isOpenAlias] at hopen
  | _ => simp

/-- Each data type that is followed is an open alias less. -/
theorem length_le (h : Descent s m id followed last outcome) :
    followed.length ≤ s.openAliases m := by
  induction h with
  | follow hslot hd hform htd inner ih =>
    have hless := openAliases_mark_lt hslot hd hform
    rw [List.length_cons]
    omega
  | _ => simp

end Descent

end Schema

/-! ## Calls that have an answer -/

/-- A memo over the data types of a schema, marks and all: slots have places of descriptors, and
marks are for typedefs of the schema. -/
structure Memo.Over (s : Schema) (m : Memo) : Prop where
  placed : ∀ id place, m.slot? id = some (.resolved place) → place < m.descriptors.size
  marked : ∀ id t, m.slot? id = some (.inProgress t) → s.has (.typedef t)

theorem Memo.Over.mark {s : Schema} {m : Memo} (h : m.Over s) {t : TypedefId}
    (ht : s.has (.typedef t)) (id : DataTypeId) : (m.mark id t).Over s where
  placed other place hslot := by
    by_cases hid : id = other
    · simp [hid] at hslot
    · exact h.placed other place (by simpa [hid] using hslot)
  marked other t' hslot := by
    by_cases hid : id = other
    · obtain rfl : t = t' := by simpa [hid] using hslot
      exact ht
    · exact h.marked other t' (by simpa [hid] using hslot)

namespace Schema

variable {s : Schema} {m : Memo} {id last : DataTypeId} {followed : List DataTypeId}
  {outcome : Option (Except Failure Descriptor × Memo)}

/-- In a closed schema the innermost call has an answer, and so have all around it. -/
theorem Descent.exists_answer (h : Descent s m id followed last outcome) (hs : s.Closed)
    (hm : m.Over s) (hid : id ∈ s.dataTypeIds) : ∃ answer m', outcome = some (answer, m') := by
  induction h with
  | @remembered m id place hslot =>
    obtain ⟨found, hfound⟩ := lt_size_iff.1 (hm.placed id place hslot)
    exact ⟨_, _, by rw [hfound, Option.map_some]⟩
  | @marked m id t hslot =>
    obtain ⟨td, htd⟩ := exists_typedef (hm.marked id t hslot)
    obtain ⟨name, hname⟩ := hs.typedefName htd
    exact ⟨.error ⟨.recursiveTypedef, name, td.span⟩, m, by simp [circle, hname, htd]⟩
  | dangling hslot hd =>
    obtain ⟨d, hd'⟩ := mem_dataTypeIds.1 hid
    cases hd.symm.trans hd'
  | elementary hslot hd hform =>
    rcases hs.elementaryTarget hd hform with ⟨-, target, htarget⟩ | ⟨-, cause, htarget⟩
    · exact ⟨_, _, by rw [htarget]; rfl⟩
    · exact ⟨_, _, by rw [htarget]; rfl⟩
  | object hslot hd hform => exact ⟨_, _, rfl⟩
  | danglingTypedef hslot hd hform htd =>
    obtain ⟨td, htd'⟩ := hs.alias_typedef hd hform
    cases htd.symm.trans htd'
  | follow hslot hd hform htd inner ih =>
    have hhas : s.has (.typedef _) := decide_eq_true (lt_size_iff.2 ⟨_, htd⟩)
    obtain ⟨answer, m', rfl⟩ := ih (hm.mark hhas _) (mem_dataTypeIds.2 (hs.typedef_dataType htd))
    exact ⟨_, _, rfl⟩

/-- **Every call ends, and none is nested deeper than there are open aliases.** Whatever the memo
holds, there is one way down from a call. It makes at most one call more than there are aliases
without a slot, follows only those, and none of them twice. In a well-formed schema the call has
an answer, with marks in the memo too. -/
theorem resolve_nesting (s : Schema) (m : Memo) (id : DataTypeId) :
    ∃ followed last, Descent s m id followed last (s.resolve m id) ∧
      (∀ followed' last' outcome, Descent s m id followed' last' outcome →
        followed' = followed ∧ last' = last ∧ outcome = s.resolve m id) ∧
      (followed ++ [last]).length ≤ s.openAliases m + 1 ∧ followed.Nodup ∧
      (∀ x ∈ followed, s.isOpenAlias m x) ∧
      (s.WellFormed → m.Over s → id ∈ s.dataTypeIds →
        ∃ answer m', s.resolve m id = some (answer, m')) := by
  obtain ⟨followed, last, h⟩ := exists_descent s m id
  refine ⟨followed, last, h, fun followed' last' outcome h' => h.unique h', ?_, h.nodup,
    h.isOpenAlias, fun hs hm hid => h.exists_answer hs.closed hm hid⟩
  simpa using h.length_le

/-- A mark left on what `B` stands for: the call for the field of type `A` comes to it after
two typedefs and ends there, although nothing is being followed. -/
theorem resolve_nesting_marked : sample.WellFormed ∧ (Memo.empty.mark ⟨1⟩ ⟨0⟩).Over sample ∧
    ⟨3⟩ ∈ sample.dataTypeIds ∧
    (∃ answer m', sample.resolve (Memo.empty.mark ⟨1⟩ ⟨0⟩) ⟨3⟩ = some (answer, m')) ∧
    ∃ followed last, Descent sample (Memo.empty.mark ⟨1⟩ ⟨0⟩) ⟨3⟩ followed last
      (sample.resolve (Memo.empty.mark ⟨1⟩ ⟨0⟩) ⟨3⟩) ∧ (followed ++ [last]).length ≤ 4 := by
  have hm : (Memo.empty.mark ⟨1⟩ ⟨0⟩).Over sample := by
    have hempty : Memo.empty.Over sample := ⟨by simp [Memo.slot?_empty], by simp [Memo.slot?_empty]⟩
    exact hempty.mark (by decide) _
  have hid : ⟨3⟩ ∈ sample.dataTypeIds := by decide
  obtain ⟨followed, last, hdescent, -, hlength, -, -, hanswer⟩ :=
    resolve_nesting sample (Memo.empty.mark ⟨1⟩ ⟨0⟩) ⟨3⟩
  have hopen : sample.openAliases (Memo.empty.mark ⟨1⟩ ⟨0⟩) = 3 := by decide
  rw [hopen] at hlength
  exact ⟨sample_wellFormed, hm, hid, hanswer sample_wellFormed hm hid, followed, last, hdescent,
    hlength⟩

end Schema

end SchemaTypes
