/-
The table of resolved fields told without the memo.

The run asks for the data types of all fields first and then reads the memo.
What was asked for and has a descriptor is remembered until the table is made,
and what has none is never remembered (`resolveAll_get?`), so each row has the
answer that the field's data type has on its own (`Reached.resolvedFields_eq`).
In a closed schema everything that a row names is there
(`Closed.exists_table`).
-/
import SchemaTypes.Proofs.FailureReports
import SchemaTypes.Proofs.RunHistory
import SchemaTypes.FieldTable

namespace SchemaTypes

namespace Schema

variable {s : Schema} {m m' : Memo} {id x : DataTypeId}

/-- A field with the descriptor that its data type has on its own, if it has one. -/
def fieldEntry (s : Schema) (id : FieldId) : Option (FieldId × Option Descriptor) := do
  let f ← s.field? id
  let answer ← s.answer? f.dataType
  pure (id, answer.toOption)

theorem fieldEntry_eq_some_iff {s : Schema} {id : FieldId} {entry : FieldId × Option Descriptor} :
    s.fieldEntry id = some entry ↔ ∃ f answer, s.field? id = some f ∧
      s.answer? f.dataType = some answer ∧ (id, answer.toOption) = entry := by
  simp [fieldEntry, Option.bind_eq_some_iff]

def freshTable (s : Schema) : Option (List (FieldId × Option Descriptor)) :=
  s.fieldIds.mapM s.fieldEntry

theorem Closed.get?_of_resolve (h : s.Closed) (hm : m.Sound s [])
    {answer : Except Failure Descriptor} (hcall : s.resolve m id = some (answer, m'))
    {d : Descriptor} (hget : m.get? x = some d) : m'.get? x = some d := by
  obtain ⟨hd, horigin⟩ := hm.get?_eq_some.1 hget
  cases answer with
  | ok found =>
    obtain ⟨hm', -, xs, z, -, -, hnew⟩ := h.resolve_ok hm hcall
    refine hm'.get?_eq_some.2 ⟨?_, horigin⟩
    rw [← Array.mem_toList_iff, hnew]
    exact List.mem_append_left _ (Array.mem_toList_iff.2 hd)
  | error failure =>
    obtain ⟨hm', -, hsame⟩ := h.resolve_error hm hcall
    exact hm'.get?_eq_some.2 ⟨hsame ▸ hd, horigin⟩

theorem get?_eq_toOption (hm : m.Sound s []) {answer : Except Failure Descriptor}
    (hanswer : s.Answers id answer) (hsome : answer.toOption.isSome → (m.get? id).isSome) :
    m.get? id = answer.toOption := by
  cases hget : m.get? id with
  | some d =>
    obtain ⟨hd, rfl⟩ := hm.get?_eq_some.1 hget
    rw [hanswer.unique (hm.right d hd)]
    rfl
  | none =>
    rw [hget] at hsome
    cases answer with
    | ok d => exact absurd (hsome rfl) (by simp)
    | error failure => rfl

/-- After a call with a data type the memo has what the answer says. -/
theorem Closed.get?_resolved (h : s.Closed) (hm : m.Sound s [])
    {answer : Except Failure Descriptor} (hcall : s.resolve m id = some (answer, m')) :
    m'.get? id = answer.toOption := by
  obtain ⟨hm', hanswer⟩ := h.resolve_sound hm hcall
  refine get?_eq_toOption hm' hanswer fun hsome => ?_
  cases answer with
  | error failure => cases hsome
  | ok d =>
    obtain ⟨-, -, xs, z, way, -, hnew⟩ := h.resolve_ok hm hcall
    obtain ⟨d', hd', horigin⟩ := (exists_origin_iff hm hnew).2 (.inr way.mem_start)
    rw [hm'.get?_eq_some.2 ⟨hd', horigin⟩]
    rfl

/-! ## The rows in words -/

/-- What a descriptor of a closed schema names has a name. -/
theorem Closed.exists_row (h : s.Closed) {id : FieldId} {f : FieldDecl} (hf : s.field? id = some f)
    {answer : Except Failure Descriptor} (hanswer : s.Answers f.dataType answer) :
    ∃ row, FieldRow.ofField s id answer.toOption = some row := by
  obtain ⟨owner, howner⟩ := h.field_owner hf
  obtain ⟨ownerName, hownerName⟩ := h.className howner
  obtain ⟨typedef, htypedef⟩ : ∃ text, FieldRow.typedefText s answer.toOption = some text := by
    cases hanswer with
    | failed | circular => exact ⟨none, rfl⟩
    | resolved way ending =>
      cases halias : s.alias? f.dataType with
      | none => exact ⟨none, rfl⟩
      | some t =>
        obtain ⟨d, hd, hform⟩ := alias?_eq_some.1 halias
        obtain ⟨td, htd⟩ := h.alias_typedef hd hform
        obtain ⟨name, hname⟩ := h.typedefName htd
        exact ⟨some name, by simp [FieldRow.typedefText, Except.toOption, hname]⟩
  obtain ⟨target, htarget⟩ : ∃ text, FieldRow.targetText s answer.toOption = some text := by
    cases hanswer with
    | failed | circular => exact ⟨.unresolved, rfl⟩
    | resolved way ending =>
      cases ending with
      | elementary => exact ⟨_, rfl⟩
      | @object d c hd hform =>
        have hhas := h.of_dataType hd (n := .classDecl c)
          (by simp [DataType.handles, TypeForm.handles, hform])
        obtain ⟨cd, hcd⟩ := exists_class hhas
        obtain ⟨name, hname⟩ := h.className hcd
        exact ⟨.object name, by simp [FieldRow.targetText, Except.toOption, hname]⟩
  exact ⟨_, by simp [FieldRow.ofField, hf, hownerName, htypedef, htarget]; rfl⟩

theorem Closed.exists_table (h : s.Closed) :
    ∃ entries rows, s.freshTable = some entries ∧ FieldTable.rows s entries = some rows := by
  have hentry : ∀ id ∈ s.fieldIds, ∃ entry, s.fieldEntry id = some entry := by
    intro id hid
    obtain ⟨f, hf⟩ := mem_fieldIds.1 hid
    obtain ⟨answer, hanswer⟩ := h.exists_answer (mem_dataTypeIds.2 (h.field_dataType hf))
    exact ⟨_, by simp [fieldEntry, hf, h.answer?_eq_some.2 hanswer]; rfl⟩
  obtain ⟨entries, hentries⟩ := exists_mapM hentry
  have hrow : ∀ entry ∈ entries, ∃ row, FieldRow.ofField s entry.1 entry.2 = some row := by
    intro entry hmem
    obtain ⟨id, -, hid⟩ := (mem_of_mapM hentries).1 hmem
    obtain ⟨f, answer, hf, hanswer, rfl⟩ := fieldEntry_eq_some_iff.1 hid
    exact h.exists_row hf (h.answer?_eq_some.1 hanswer)
  obtain ⟨rows, hrows⟩ := exists_mapM hrow
  exact ⟨entries, rows, hentries, hrows⟩

end Schema

namespace Run

variable {s : Schema} {checkLengths : Bool} {r : Run} {m : Memo}

/-- When several data types have been asked for, the memo has the answers of all of them. -/
theorem resolveAll_get? (h : s.Closed) : ∀ (ids : List DataTypeId) {m : Memo}, m.Sound s [] →
    (∀ x ∈ ids, x ∈ s.dataTypeIds) → ∃ m', resolveAll s m ids = some m' ∧ m'.Sound s [] ∧
      (∀ x d, m.get? x = some d → m'.get? x = some d) ∧
      ∀ x ∈ ids, ∃ answer, s.answer? x = some answer ∧ m'.get? x = answer.toOption
  | [], m, hm, _ => ⟨m, rfl, hm, fun _ _ hget => hget, by simp⟩
  | id :: ids, m, hm, hids => by
    obtain ⟨answer, m₁, hcall⟩ := h.exists_resolve hm (hids id List.mem_cons_self)
    obtain ⟨hm₁, hanswer⟩ := h.resolve_sound hm hcall
    obtain ⟨m₂, hall, hm₂, hkept, hrest⟩ :=
      resolveAll_get? h ids hm₁ fun x hx => hids x (List.mem_cons_of_mem _ hx)
    refine ⟨m₂, by simp [resolveAll, hcall, hall], hm₂,
      fun x d hget => hkept x d (h.get?_of_resolve hm hcall hget), fun x hx => ?_⟩
    rcases List.mem_cons.1 hx with rfl | hx
    · refine ⟨answer, h.answer?_eq_some.2 hanswer, Schema.get?_eq_toOption hm₂ hanswer ?_⟩
      intro hsome
      rw [← h.get?_resolved hm hcall] at hsome
      obtain ⟨d, hd⟩ := Option.isSome_iff_exists.1 hsome
      simp [hkept x d hd]
    · exact hrest x hx

/-- Wherever in a run the table of resolved fields is made, each field has the answer that its
data type has on its own. -/
theorem Reached.resolvedFields_eq (h : s.Closed) (hr : Reached s checkLengths r) :
    ∃ r', r.resolvedFields = s.freshTable.map (·, r') := by
  obtain ⟨m, hm, rfl⟩ := hr.exists_memo h
  have hids : ∀ x ∈ s.fields.toList.map (·.dataType), x ∈ s.dataTypeIds := by
    intro x hx
    obtain ⟨f, hf, rfl⟩ := List.mem_map.1 hx
    obtain ⟨i, hi⟩ := Array.mem_iff_getElem?.1 (Array.mem_toList_iff.1 hf)
    exact Schema.mem_dataTypeIds.2 (h.field_dataType (f := ⟨i⟩) hi)
  obtain ⟨m', hall, -, -, hget⟩ := resolveAll_get? h _ hm hids
  have hentry (id : FieldId) :
      ((s.field? id).map fun f => (id, m'.get? f.dataType)) = s.fieldEntry id := by
    cases hf : s.field? id with
    | none => simp [Schema.fieldEntry, hf]
    | some f =>
      have hmem : f ∈ s.fields.toList := Array.mem_toList_iff.2 (Array.mem_of_getElem? hf)
      obtain ⟨answer, hanswer, hfound⟩ := hget f.dataType (List.mem_map_of_mem hmem)
      simp [Schema.fieldEntry, hf, hanswer, hfound]
  refine ⟨⟨s, m', checkLengths⟩, ?_⟩
  simp only [Run.resolvedFields, hall, hentry, Schema.freshTable, Option.bind_eq_bind,
    Option.bind_some]
  cases s.fieldIds.mapM s.fieldEntry <;> rfl

end Run

end SchemaTypes
