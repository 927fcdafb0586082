/-
A check told without its memo: every data type is resolved on its own, with
nothing remembered from one to the next.

A memo that calls have left changes no answer (`Closed.resolve_eq`), so it
changes no finding either, and a check reports what `freshCheck` says
(`Closed.check_eq`). What is to be shown of a check's report is a matter of
lists from there on.
-/
import SchemaTypes.Proofs.MemoHistory
import SchemaTypes.Run

namespace SchemaTypes

namespace Schema

/-! ## Answers -/

/-- The answer for a data type from an empty memo. -/
def answer? (s : Schema) (id : DataTypeId) : Option (Except Failure Descriptor) :=
  (s.resolve .empty id).map (·.1)

variable {s : Schema} {m : Memo}

theorem Closed.answer?_eq_some (h : s.Closed) {x : DataTypeId}
    {answer : Except Failure Descriptor} : s.answer? x = some answer ↔ s.Answers x answer := by
  rw [answer?, Option.map_eq_some_iff]
  constructor
  · rintro ⟨⟨answer', m⟩, hcall, rfl⟩
    exact (h.resolve_sound .empty hcall).2
  · intro hanswer
    obtain ⟨answer', m, hcall⟩ := h.exists_resolve .empty hanswer.mem_dataTypeIds
    exact ⟨_, hcall, (h.resolve_sound .empty hcall).2.unique hanswer⟩

/-- A sound memo answers as the empty one does, and stays sound. -/
theorem Closed.resolve_eq (h : s.Closed) (hm : m.Sound s []) (id : DataTypeId) :
    ∃ m', m'.Sound s [] ∧ s.resolve m id = (s.answer? id).map (·, m') := by
  cases hcall : s.resolve m id with
  | some r =>
    obtain ⟨answer, m'⟩ := r
    obtain ⟨hm', hanswer⟩ := h.resolve_sound hm hcall
    exact ⟨m', hm', by rw [h.answer?_eq_some.2 hanswer]; rfl⟩
  | none =>
    cases hanswer : s.answer? id with
    | none => exact ⟨m, hm, rfl⟩
    | some answer =>
      have hid := (h.answer?_eq_some.1 hanswer).mem_dataTypeIds
      obtain ⟨answer', m', hcall'⟩ := h.exists_resolve hm hid
      rw [hcall] at hcall'
      cases hcall'

/-! ## Findings -/

/-- What is reported of a field for the answer that its type has. -/
def typeFindings (f : FieldDecl) : Except Failure Descriptor → List Diagnostic
  | .ok _ => []
  | .error failure => [Validation.typeFinding f failure]

def fieldReport (s : Schema) (id : FieldId) : Option (List Diagnostic) := do
  let f ← s.field? id
  let shape ← Validation.fieldShape s id f
  let answer ← s.answer? f.dataType
  pure (shape ++ typeFindings f answer)

/-- What the rules find, in the order of reporting. -/
def freshFindings (s : Schema) (checkLengths : Bool) : Option (List Diagnostic) := do
  let classes ← s.classIds.mapM (Validation.classFindings s)
  let fields ← s.fieldIds.mapM s.fieldReport
  pure (classes.flatten ++ fields.flatten ++
    (if checkLengths then Validation.lengths s else []))

/-- The failure of a typedef, if it has one. -/
def typedefFailure (s : Schema) (t : TypedefId) : Option (List Diagnostic) := do
  let d ← s.typedef? t
  let answer ← s.answer? d.dataType
  match answer with
  | .ok _ => pure []
  | .error failure => pure [failure.toDiagnostic]

/-- The failures of all typedefs. -/
def typedefFailures (s : Schema) : Option (List Diagnostic) := do
  let failures ← s.typedefIds.mapM s.typedefFailure
  pure failures.flatten

/-- The diagnostics whose keys have not been seen, each key once. -/
def unseen : List FailureKey → List Diagnostic → List Diagnostic
  | _, [] => []
  | seen, d :: rest =>
    if d.failureKey ∈ seen then unseen seen rest
    else d :: unseen (d.failureKey :: seen) rest

/-- The report of a check for what the rules find and the typedefs' failures. -/
def wholeReport (findings failures : List Diagnostic) : Report :=
  let report := Report.ofDiagnostics findings
  let extra := unseen (report.diagnostics.map (·.failureKey)) failures
  if extra.isEmpty then report else .ofDiagnostics (report.diagnostics ++ extra)

def freshCheck (s : Schema) (checkLengths : Bool) : Option Report := do
  let findings ← s.freshFindings checkLengths
  let failures ← s.typedefFailures
  pure (wholeReport findings failures)

/-! ## The memo makes no difference -/

namespace Closed

open Validation

theorem fieldFindings_eq (h : s.Closed) (hm : m.Sound s []) (id : FieldId) :
    ∃ m', m'.Sound s [] ∧ fieldFindings s m id = (s.fieldReport id).map (·, m') := by
  cases hf : s.field? id with
  | none => exact ⟨m, hm, by simp [fieldFindings, fieldReport, hf]⟩
  | some f =>
    cases hshape : fieldShape s id f with
    | none => exact ⟨m, hm, by simp [fieldFindings, fieldReport, hf, hshape]⟩
    | some shape =>
      obtain ⟨m', hm', hcall⟩ := h.resolve_eq hm f.dataType
      refine ⟨m', hm', ?_⟩
      cases hanswer : s.answer? f.dataType with
      | none => simp [fieldFindings, fieldReport, hf, hshape, hcall, hanswer]
      | some answer =>
        cases answer <;>
          simp [fieldFindings, fieldReport, hf, hshape, hcall, hanswer, typeFindings]

theorem fieldsFindings_eq (h : s.Closed) (ids : List FieldId) : ∀ {m : Memo}, m.Sound s [] →
    ∃ m', m'.Sound s [] ∧
      fieldsFindings s m ids = (ids.mapM s.fieldReport).map fun found => (found.flatten, m') := by
  induction ids with
  | nil => exact fun hm => ⟨_, hm, by simp [fieldsFindings]⟩
  | cons id rest ih =>
    intro m hm
    obtain ⟨m₁, hm₁, hfield⟩ := h.fieldFindings_eq hm id
    obtain ⟨m₂, hm₂, hrest⟩ := ih hm₁
    refine ⟨m₂, hm₂, ?_⟩
    cases hreport : s.fieldReport id with
    | none => simp [fieldsFindings, hfield, hreport]
    | some found =>
      cases hreports : rest.mapM s.fieldReport with
      | none => simp [fieldsFindings, hfield, hreport, hrest, hreports]
      | some more => simp [fieldsFindings, hfield, hreport, hrest, hreports]

theorem findings_eq (h : s.Closed) (hm : m.Sound s []) (checkLengths : Bool) :
    ∃ m', m'.Sound s [] ∧
      findings s checkLengths m = (s.freshFindings checkLengths).map (·, m') := by
  obtain ⟨m', hm', hfields⟩ := h.fieldsFindings_eq s.fieldIds hm
  refine ⟨m', hm', ?_⟩
  cases hclasses : s.classIds.mapM (classFindings s) with
  | none => simp [findings, freshFindings, hclasses]
  | some classes =>
    cases hreports : s.fieldIds.mapM s.fieldReport with
    | none => simp [findings, freshFindings, hclasses, hfields, hreports]
    | some fields => simp [findings, freshFindings, hclasses, hfields, hreports]

theorem unseenFailures_eq (h : s.Closed) (ts : List TypedefId) :
    ∀ {m : Memo} (seen : List FailureKey), m.Sound s [] → ∃ m', m'.Sound s [] ∧
      Run.unseenFailures s m seen ts = (ts.mapM s.typedefFailure).map fun failures =>
        (unseen seen failures.flatten, m') := by
  induction ts with
  | nil => exact fun seen hm => ⟨_, hm, by simp [Run.unseenFailures, unseen]⟩
  | cons t rest ih =>
    intro m seen hm
    cases hd : s.typedef? t with
    | none => exact ⟨m, hm, by simp [Run.unseenFailures, typedefFailure, hd]⟩
    | some d =>
      obtain ⟨m₁, hm₁, hcall⟩ := h.resolve_eq hm d.dataType
      cases hanswer : s.answer? d.dataType with
      | none =>
        exact ⟨m, hm, by simp [Run.unseenFailures, typedefFailure, hd, hcall, hanswer]⟩
      | some answer =>
        cases answer with
        | ok descriptor =>
          obtain ⟨m₂, hm₂, hrest⟩ := ih seen hm₁
          refine ⟨m₂, hm₂, ?_⟩
          cases hfailures : rest.mapM s.typedefFailure <;>
            simp [Run.unseenFailures, typedefFailure, hd, hcall, hanswer, hrest, hfailures]
        | error failure =>
          by_cases hseen : failure.toDiagnostic.failureKey ∈ seen
          · obtain ⟨m₂, hm₂, hrest⟩ := ih seen hm₁
            refine ⟨m₂, hm₂, ?_⟩
            cases hfailures : rest.mapM s.typedefFailure <;>
              simp [Run.unseenFailures, typedefFailure, hd, hcall, hanswer, hrest, hfailures,
                unseen, hseen]
          · obtain ⟨m₂, hm₂, hrest⟩ := ih (failure.toDiagnostic.failureKey :: seen) hm₁
            refine ⟨m₂, hm₂, ?_⟩
            cases hfailures : rest.mapM s.typedefFailure <;>
              simp [Run.unseenFailures, typedefFailure, hd, hcall, hanswer, hrest, hfailures,
                unseen, hseen]

/-- **A check reports what it would without a memo**, and leaves a sound memo. -/
theorem check_eq {r : Run} (h : r.schema.Closed) (hm : r.memo.Sound r.schema []) :
    ∃ m, m.Sound r.schema [] ∧
      r.check = (r.schema.freshCheck r.checkLengths).map (·, { r with memo := m }) := by
  obtain ⟨m₁, hm₁, hfindings⟩ := h.findings_eq hm r.checkLengths
  cases hfound : r.schema.freshFindings r.checkLengths with
  | none =>
    exact ⟨_, hm, by simp [Run.check, Schema.validate, freshCheck, hfindings, hfound]⟩
  | some found =>
    obtain ⟨m₂, hm₂, hextra⟩ := h.unseenFailures_eq r.schema.typedefIds
      ((Report.ofDiagnostics found).diagnostics.map (·.failureKey)) hm₁
    refine ⟨m₂, hm₂, ?_⟩
    cases hfailures : r.schema.typedefIds.mapM r.schema.typedefFailure <;>
      simp [Run.check, Schema.validate, freshCheck, typedefFailures, wholeReport, hfindings,
        hfound, hextra, hfailures]

end Closed

end Schema

end SchemaTypes
