/-
The runs that checks and tables of resolved fields can lead to.

A run starts with an empty memo, whichever memo it is given, and changes it by
resolutions alone, so what a resolution keeps, a run keeps (`check_keeps`,
`resolvedFields_keeps`). Its memo is always one that calls lead to
(`Reached.exists_reached_memo`), hence a sound one, and a check anywhere in a
run reports what it would report without a memo (`Reached.check_eq`).
-/
import SchemaTypes.Proofs.FreshCheck

namespace SchemaTypes.Run

/-- `Reached s checkLengths r`: calls on a run over the schema `s` lead to `r`. -/
inductive Reached (s : Schema) (checkLengths : Bool) : Run → Prop
  | start (m : Memo) : Reached s checkLengths (startWith s m checkLengths)
  | check {r r' : Run} {report : Report} (before : Reached s checkLengths r)
    (call : r.check = some (report, r')) : Reached s checkLengths r'
  | resolvedFields {r r' : Run} {rows : List (FieldId × Option Descriptor)}
    (before : Reached s checkLengths r) (call : r.resolvedFields = some (rows, r')) :
    Reached s checkLengths r'

variable {s : Schema} {checkLengths : Bool} {r r' : Run}

/-! ## What a resolution keeps -/

section Keeps

variable {P : Memo → Prop} (hresolve : ∀ m id answer m', P m →
  s.resolve m id = some (answer, m') → P m')
include hresolve

theorem fieldsFindings_keeps : ∀ (ids : List FieldId) {m m' : Memo} {ds : List Diagnostic}, P m →
    Validation.fieldsFindings s m ids = some (ds, m') → P m'
  | [], m, m', ds, hm, hcall => by
    obtain ⟨-, rfl⟩ := Prod.mk.inj (Option.some.inj hcall)
    exact hm
  | id :: ids, m, m', ds, hm, hcall => by
    simp only [Validation.fieldsFindings, Option.bind_eq_bind, Option.bind_eq_some_iff] at hcall
    obtain ⟨⟨found, m₁⟩, hfield, ⟨more, m₂⟩, hrest, hpure⟩ := hcall
    obtain ⟨-, rfl⟩ := Prod.mk.inj (Option.some.inj hpure)
    refine fieldsFindings_keeps ids ?_ hrest
    simp only [Validation.fieldFindings, Option.bind_eq_bind, Option.bind_eq_some_iff] at hfield
    obtain ⟨f, -, shape, -, ⟨answer, m₃⟩, hanswer, hpure⟩ := hfield
    have hm₃ := hresolve m f.dataType answer m₃ hm hanswer
    cases answer with
    | ok descriptor | error failure =>
      obtain ⟨-, rfl⟩ := Prod.mk.inj (Option.some.inj hpure)
      exact hm₃

theorem validate_keeps {m m' : Memo} {report : Report} (hm : P m)
    (hcall : s.validate checkLengths m = some (report, m')) : P m' := by
  obtain ⟨⟨ds, m₁⟩, hfindings, hpair⟩ := Option.map_eq_some_iff.1 hcall
  obtain ⟨-, rfl⟩ := Prod.mk.inj hpair
  simp only [Validation.findings, Option.bind_eq_bind, Option.bind_eq_some_iff] at hfindings
  obtain ⟨classes, -, ⟨fields, m₂⟩, hfields, hpure⟩ := hfindings
  obtain ⟨-, rfl⟩ := Prod.mk.inj (Option.some.inj hpure)
  exact fieldsFindings_keeps hresolve _ hm hfields

theorem unseenFailures_keeps : ∀ (ts : List TypedefId) {m m' : Memo} {seen : List FailureKey}
    {ds : List Diagnostic}, P m → unseenFailures s m seen ts = some (ds, m') → P m'
  | [], m, m', seen, ds, hm, hcall => by
    obtain ⟨-, rfl⟩ := Prod.mk.inj (Option.some.inj hcall)
    exact hm
  | t :: ts, m, m', seen, ds, hm, hcall => by
    simp only [unseenFailures, Option.bind_eq_bind, Option.bind_eq_some_iff] at hcall
    obtain ⟨d, -, ⟨answer, m₁⟩, hanswer, hcall⟩ := hcall
    have hm₁ := hresolve m d.dataType answer m₁ hm hanswer
    cases answer with
    | ok descriptor => exact unseenFailures_keeps ts hm₁ hcall
    | error failure =>
      simp only at hcall
      split at hcall
      · exact unseenFailures_keeps ts hm₁ hcall
      · obtain ⟨⟨more, m₂⟩, hrest, hpure⟩ := Option.bind_eq_some_iff.1 hcall
        obtain ⟨-, rfl⟩ := Prod.mk.inj (Option.some.inj hpure)
        exact unseenFailures_keeps ts hm₁ hrest

theorem resolveAll_keeps : ∀ (ids : List DataTypeId) {m m' : Memo}, P m →
    resolveAll s m ids = some m' → P m'
  | [], m, m', hm, hcall => by
    obtain rfl : m = m' := Option.some.inj hcall
    exact hm
  | id :: ids, m, m', hm, hcall => by
    simp only [resolveAll, Option.bind_eq_bind, Option.bind_eq_some_iff] at hcall
    obtain ⟨⟨answer, m₁⟩, hanswer, hrest⟩ := hcall
    exact resolveAll_keeps ids (hresolve m id answer m₁ hm hanswer) hrest

end Keeps

theorem check_keeps {P : Memo → Prop} (hresolve : ∀ m id answer m', P m →
    r.schema.resolve m id = some (answer, m') → P m') {report : Report} (hm : P r.memo)
    (hcall : r.check = some (report, r')) : ∃ m, P m ∧ r' = { r with memo := m } := by
  simp only [check, Option.bind_eq_bind, Option.bind_eq_some_iff] at hcall
  obtain ⟨⟨found, m₁⟩, hvalidate, ⟨extra, m₂⟩, hextra, hpure⟩ := hcall
  obtain ⟨-, rfl⟩ := Prod.mk.inj (Option.some.inj hpure)
  have hm₁ := validate_keeps hresolve hm hvalidate
  exact ⟨m₂, unseenFailures_keeps hresolve _ hm₁ hextra, rfl⟩

theorem resolvedFields_keeps {P : Memo → Prop} (hresolve : ∀ m id answer m', P m →
    r.schema.resolve m id = some (answer, m') → P m') {rows : List (FieldId × Option Descriptor)}
    (hm : P r.memo) (hcall : r.resolvedFields = some (rows, r')) :
    ∃ m, P m ∧ r' = { r with memo := m } := by
  simp only [resolvedFields, Option.bind_eq_bind, Option.bind_eq_some_iff] at hcall
  obtain ⟨m, hall, rows', -, hpure⟩ := hcall
  obtain ⟨-, rfl⟩ := Prod.mk.inj (Option.some.inj hpure)
  exact ⟨m, resolveAll_keeps hresolve _ hm hall, rfl⟩

namespace Reached

/-- A run is over one schema and with one setting, and its memo is one that calls to resolve
data types lead to. -/
theorem exists_reached_memo (hr : Reached s checkLengths r) :
    ∃ calls m, Memo.Reached s calls m ∧ r = ⟨s, m, checkLengths⟩ := by
  have hresolve : ∀ m id answer m', (∃ calls, Memo.Reached s calls m) →
      s.resolve m id = some (answer, m') → ∃ calls, Memo.Reached s calls m' := by
    rintro m id answer m' ⟨calls, hm⟩ hcall
    exact ⟨_, .resolve hm hcall⟩
  induction hr with
  | start m => exact ⟨[], .empty, .start, rfl⟩
  | check _ call ih =>
    obtain ⟨calls, m, hm, rfl⟩ := ih
    obtain ⟨m', ⟨calls', hm'⟩, rfl⟩ :=
      check_keeps (r := ⟨s, m, checkLengths⟩) hresolve ⟨calls, hm⟩ call
    exact ⟨calls', m', hm', rfl⟩
  | resolvedFields _ call ih =>
    obtain ⟨calls, m, hm, rfl⟩ := ih
    obtain ⟨m', ⟨calls', hm'⟩, rfl⟩ :=
      resolvedFields_keeps (r := ⟨s, m, checkLengths⟩) hresolve ⟨calls, hm⟩ call
    exact ⟨calls', m', hm', rfl⟩

theorem exists_memo (h : s.Closed) (hr : Reached s checkLengths r) :
    ∃ m, m.Sound s [] ∧ r = ⟨s, m, checkLengths⟩ := by
  obtain ⟨calls, m, hm, rfl⟩ := hr.exists_reached_memo
  exact ⟨m, hm.sound h, rfl⟩

theorem check_eq (h : s.Closed) (hr : Reached s checkLengths r) :
    ∃ r', r.check = (s.freshCheck checkLengths).map (·, r') := by
  obtain ⟨m, hm, rfl⟩ := hr.exists_memo h
  obtain ⟨m', -, hcheck⟩ := Schema.Closed.check_eq (r := ⟨s, m, checkLengths⟩) h hm
  exact ⟨_, hcheck⟩

end Reached

end SchemaTypes.Run
