/-
The fields whose types fail to resolve, in the report of a validation and in
the table of resolved fields.

The validation asks for the type of a field when the field's turn comes; the
table asks for all types first and then reads the memo. Both come to the answer
that the type has on its own, so they agree field by field: a field whose type
fails contributes one diagnostic to the report (`contributes`) and an
unresolved row to the table (`rowTells`), and any other field contributes
neither.
-/
import SchemaTypes.Proofs.FreshTable
import SchemaTypes.Proofs.Verdict

namespace SchemaTypes

namespace Schema

/-- The type of a field fails to resolve. -/
def Unresolved (s : Schema) (id : FieldId) : Prop :=
  ∃ f failure, s.field? id = some f ∧ s.Answers f.dataType (.error failure)

/-- What a field contributes to the failures in a report: nothing if its type resolves, and one
diagnostic otherwise, with the code, the message and the place of the failure and with the field
as its one secondary label. -/
inductive Contributes (s : Schema) (id : FieldId) : List Diagnostic → Prop
  | nothing (h : ¬s.Unresolved id) : Contributes s id []
  | failure {f : FieldDecl} {failure : Failure} {d : Diagnostic} (hf : s.field? id = some f)
    (hanswer : s.Answers f.dataType (.error failure))
    (hkey : d.failureKey = failure.toDiagnostic.failureKey)
    (hlabel : d.labels.filter (!·.isPrimary) =
      [⟨f.span, "type of field `" ++ f.name ++ "`", false⟩]) : Contributes s id [d]

/-- What a row of the table tells of a field. -/
structure RowTells (s : Schema) (id : FieldId) (row : FieldRow) : Prop where
  /-- The row has the field's qualified name. -/
  field : ∃ f owner, s.field? id = some f ∧ s.className f.owner = some owner ∧
    row.field = owner ++ "." ++ f.name
  unresolved : row.target = .unresolved ↔ s.Unresolved id
  /-- A typedef is named where the field resolves and its declared type is one. -/
  typedef : row.typedef.isSome ↔ ¬s.Unresolved id ∧
    ∃ f t, s.field? id = some f ∧ s.alias? f.dataType = some t
  typedefName : ∀ name, row.typedef = some name → ∃ f t, s.field? id = some f ∧
    s.alias? f.dataType = some t ∧ s.typedefName t = some name

/-- A report and the rows of a table agree on which fields resolve. -/
structure Agree (s : Schema) (report : Report) (rows : List FieldRow) : Prop where
  /-- One row for each field, in the order of the handles. -/
  eachRow : List.Forall₂ s.RowTells s.fieldIds rows
  /-- The failures in the report are what the fields contribute, each once. -/
  failures : ∃ found, List.Forall₂ s.Contributes s.fieldIds found ∧
    (report.diagnostics.filter (·.isFailure)).Perm found.flatten
  count : report.diagnostics.countP (·.isFailure) = rows.countP (·.target = .unresolved)

variable {s : Schema} {id : FieldId} {f : FieldDecl} {answer : Except Failure Descriptor}

/-! ## One field -/

theorem unresolved_iff (hf : s.field? id = some f) (hanswer : s.Answers f.dataType answer) :
    s.Unresolved id ↔ answer.toOption = none := by
  constructor
  · rintro ⟨f', failure, hf', hfails⟩
    obtain rfl := Option.some.inj (hf.symm.trans hf')
    rw [hanswer.unique hfails]
    rfl
  · intro hnone
    cases answer with
    | ok d => cases hnone
    | error failure => exact ⟨f, failure, hf, hanswer⟩

theorem contributes (hf : s.field? id = some f) (hanswer : s.Answers f.dataType answer) :
    s.Contributes id (typeFindings f answer) := by
  cases answer with
  | ok d =>
    refine .nothing fun hunresolved => ?_
    have hnone := (unresolved_iff hf hanswer).1 hunresolved
    cases hnone
  | error failure => exact .failure hf hanswer rfl rfl

theorem targetText_eq_unresolved_iff {d : Option Descriptor} {target : TargetText}
    (h : FieldRow.targetText s d = some target) : target = .unresolved ↔ d = none := by
  cases d with
  | none =>
    obtain rfl := Option.some.inj h
    simp
  | some d =>
    unfold FieldRow.targetText at h
    cases htarget : d.target with
    | elementary e =>
      simp only [htarget] at h
      obtain rfl := Option.some.inj h
      simp
    | object c =>
      simp only [htarget] at h
      obtain ⟨name, -, rfl⟩ := Option.map_eq_some_iff.1 h
      simp

theorem typedefText_isSome_iff {d : Option Descriptor} {text : Option String}
    (h : FieldRow.typedefText s d = some text) :
    text.isSome ↔ ∃ t, d.bind (·.typedef) = some t := by
  unfold FieldRow.typedefText at h
  cases htypedef : d.bind (·.typedef) with
  | none =>
    simp only [htypedef] at h
    obtain rfl := Option.some.inj h
    simp
  | some t =>
    simp only [htypedef] at h
    obtain ⟨name, -, rfl⟩ := Option.map_eq_some_iff.1 h
    simp

theorem exists_typedef_of_typedefText {d : Option Descriptor} {name : String}
    (h : FieldRow.typedefText s d = some (some name)) :
    ∃ t, d.bind (·.typedef) = some t ∧ s.typedefName t = some name := by
  obtain ⟨t, ht⟩ := (typedefText_isSome_iff h).1 rfl
  refine ⟨t, ht, ?_⟩
  simp only [FieldRow.typedefText, ht, Option.map_eq_some_iff, Option.some.injEq] at h
  obtain ⟨_, hname, rfl⟩ := h
  exact hname

/-- The descriptor of a data type has the typedef that the data type names. -/
theorem Answers.typedef_eq {x : DataTypeId} {d : Descriptor} (h : s.Answers x (.ok d)) :
    d.typedef = s.alias? x := by
  cases h with
  | resolved way ending => rfl

theorem rowTells (hf : s.field? id = some f) (hanswer : s.Answers f.dataType answer)
    {row : FieldRow} (hrow : FieldRow.ofField s id answer.toOption = some row) :
    s.RowTells id row := by
  simp only [FieldRow.ofField, hf, Option.bind_eq_bind, Option.bind_some,
    Option.bind_eq_some_iff] at hrow
  obtain ⟨owner, howner, typedef, htypedef, target, htarget, hpure⟩ := hrow
  obtain rfl := Option.some.inj hpure
  have hunresolved := unresolved_iff hf hanswer
  refine ⟨⟨f, owner, hf, howner, rfl⟩,
    (targetText_eq_unresolved_iff htarget).trans hunresolved.symm, ?_, fun name hname => ?_⟩
  · rw [typedefText_isSome_iff htypedef, hunresolved]
    cases answer with
    | error failure => simp [Except.toOption]
    | ok d => simp [Except.toOption, hanswer.typedef_eq, hf]
  · subst hname
    obtain ⟨t, ht, hname⟩ := exists_typedef_of_typedefText htypedef
    cases answer with
    | error failure => cases ht
    | ok d => exact ⟨f, t, hf, hanswer.typedef_eq ▸ ht, hname⟩

/-! ## All fields -/

theorem Closed.forall₂_contributes (h : s.Closed) {ids : List FieldId}
    {found : List (List Diagnostic)} (hfound : ids.mapM s.fieldFailure = some found) :
    List.Forall₂ s.Contributes ids found := by
  refine (forall₂_of_mapM hfound).imp fun id ds hds => ?_
  obtain ⟨f, answer, hf, hanswer, rfl⟩ := fieldFailure_eq_some_iff.1 hds
  exact contributes hf (h.answer?_eq_some.1 hanswer)

theorem Closed.forall₂_rowTells (h : s.Closed) {ids : List FieldId}
    {entries : List (FieldId × Option Descriptor)} {rows : List FieldRow}
    (hentries : List.Forall₂ (fun id entry => s.fieldEntry id = some entry) ids entries)
    (hrows : FieldTable.rows s entries = some rows) : List.Forall₂ s.RowTells ids rows := by
  induction hentries generalizing rows with
  | nil =>
    obtain rfl : [] = rows := by simpa [FieldTable.rows] using hrows
    exact .nil
  | @cons id entry ids entries hentry _ ih =>
    simp only [FieldTable.rows, List.mapM_cons, Option.bind_eq_bind,
      Option.bind_eq_some_iff] at hrows
    obtain ⟨row, hrow, rest, hrest, hpure⟩ := hrows
    obtain rfl := Option.some.inj hpure
    obtain ⟨f, answer, hf, hanswer, rfl⟩ := fieldEntry_eq_some_iff.1 hentry
    exact .cons (rowTells hf (h.answer?_eq_some.1 hanswer) hrow) (ih hrest)

/-- The table has as many unresolved rows as the fields contribute failures. -/
theorem length_contributions {ids : List FieldId} {found : List (List Diagnostic)}
    {rows : List FieldRow} (hfound : List.Forall₂ s.Contributes ids found)
    (hrows : List.Forall₂ s.RowTells ids rows) :
    found.flatten.length = rows.countP (·.target = .unresolved) := by
  induction hfound generalizing rows with
  | nil =>
    cases hrows
    rfl
  | cons hhead _ ih =>
    obtain ⟨row, rest, htells, hrest, rfl⟩ := List.forall₂_cons_left_iff.1 hrows
    rw [List.flatten_cons, List.length_append, List.countP_cons, ih hrest]
    have hunresolved := htells.unresolved
    cases hhead with
    | nothing h => simp [hunresolved, h]
    | failure hf hanswer =>
      have hfails : s.Unresolved _ := ⟨_, _, hf, hanswer⟩
      simp [hunresolved, hfails, Nat.add_comm]

/-- The report of what the rules find and the table agree. -/
theorem Closed.agree (h : s.Closed) {checkLengths : Bool} {findings : List Diagnostic}
    {entries : List (FieldId × Option Descriptor)} {rows : List FieldRow}
    (hfindings : s.freshFindings checkLengths = some findings)
    (hentries : s.freshTable = some entries) (hrows : FieldTable.rows s entries = some rows) :
    s.Agree (.ofDiagnostics findings) rows := by
  obtain ⟨found, hfound, hfilter⟩ := filter_freshFindings hfindings
  have hcontributes := h.forall₂_contributes hfound
  have heach := h.forall₂_rowTells (forall₂_of_mapM hentries) hrows
  have hperm : ((Report.ofDiagnostics findings).diagnostics.filter (·.isFailure)).Perm
      found.flatten := hfilter ▸ (Report.perm_ofDiagnostics findings).filter _
  refine ⟨heach, ⟨found, hcontributes, hperm⟩, ?_⟩
  rw [List.countP_eq_length_filter, hperm.length_eq, length_contributions hcontributes heach]

end Schema

namespace Run

variable {s : Schema} {checkLengths : Bool} {r r' : Run} {rows : List FieldRow}

/-- A check that finds nothing wrong leaves no field unresolved. -/
theorem Reached.resolved_of_isOk (h : s.WellFormed) (hr : Reached s checkLengths r)
    {entries : List (FieldId × Option Descriptor)} (hentries : s.freshTable = some entries)
    (hrows : FieldTable.rows s entries = some rows) :
    ∃ report r', r.check = some (report, r') ∧
      (report.isOk → ∀ row ∈ rows, row.target ≠ .unresolved) := by
  obtain ⟨findings, failures, r', hfindings, hfailures, hcheck⟩ := hr.exists_report h
  refine ⟨_, r', hcheck, fun hok => ?_⟩
  have hnone := ((h.wholeReport_isOk_iff hfindings hfailures).1 hok).1
  have hcount := (h.closed.agree hfindings hentries hrows).count
  rw [hnone, (Report.perm_ofDiagnostics []).eq_nil, List.countP_nil] at hcount
  intro row hrow htarget
  exact List.countP_eq_zero.1 hcount.symm row hrow (by simp [htarget])

/-- **The validation and the table agree on which fields resolve**, whatever has been resolved
before: the validation reports one failure for each unresolved field, with the field as its
secondary label, and nothing of the kind for the other fields; the table has one row for each
field, unresolved where the field is, and with a typedef where the field resolves and is declared
with one. So no row is unresolved if a check is good. -/
theorem validate_agrees_resolvedFields (h : s.WellFormed) {m : Memo}
    {calls : List (DataTypeId × Except Failure Descriptor)} (hm : Memo.Reached s calls m)
    (hr : Reached s checkLengths r) (hr' : Reached s checkLengths r') (lengths : Bool) :
    ∃ report m' entries r₁ rows, s.validate lengths m = some (report, m') ∧
      r.resolvedFields = some (entries, r₁) ∧ FieldTable.rows s entries = some rows ∧
      s.Agree report rows ∧
      ∃ whole r₂, r'.check = some (whole, r₂) ∧
        (whole.isOk → ∀ row ∈ rows, row.target ≠ .unresolved) := by
  obtain ⟨findings, m', hfindings, hvalidate⟩ := h.exists_validate hm lengths
  obtain ⟨entries, rows, hentries, hrows⟩ := h.closed.exists_table
  obtain ⟨r₁, htable⟩ := hr.resolvedFields_eq h.closed
  rw [hentries, Option.map_some] at htable
  exact ⟨_, m', entries, r₁, rows, hvalidate, htable, hrows,
    h.closed.agree hfindings hentries hrows, hr'.resolved_of_isOk h hentries hrows⟩

/-- The field `x` of the sample has the type `A` and leads into the circle of `A` and `B`. -/
theorem validate_agrees_resolvedFields_sample : Schema.sample.WellFormed ∧
    Memo.Reached Schema.sample [] .empty ∧
    Reached Schema.sample true (start Schema.sample true) ∧ Schema.sample.Unresolved ⟨0⟩ ∧
    ∃ report m' entries r₁ rows, Schema.sample.validate true .empty = some (report, m') ∧
      (start Schema.sample true).resolvedFields = some (entries, r₁) ∧
      FieldTable.rows Schema.sample entries = some rows ∧ Schema.sample.Agree report rows ∧
      ∃ whole r₂, (start Schema.sample true).check = some (whole, r₂) ∧
        (whole.isOk → ∀ row ∈ rows, row.target ≠ .unresolved) := by
  have hr : Reached Schema.sample true (start Schema.sample true) := .start .empty
  exact ⟨Schema.sample_wellFormed, .start, hr, ⟨_, _, rfl, Schema.sample_circle⟩,
    validate_agrees_resolvedFields Schema.sample_wellFormed .start hr hr true⟩

end Run

end SchemaTypes
