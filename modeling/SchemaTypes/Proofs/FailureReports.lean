/-
Which diagnostics of a check report that a data type fails to resolve.

The rules for declarations report structural codes only, and a failure never
has one (`FailureCause.stage_code`), so the stage of a code tells failures from
the rest. Each field whose type fails reports it, in the order of the fields
(`filter_freshFindings`), and so does each typedef (`mem_typedefFailures_iff`),
unless one with the same key is reported already (`perm_wholeReport`,
`mem_keys_unseen`). A key tells everything about a failure
(`Failure.eq_of_failureKey_eq`).
-/
import SchemaTypes.Proofs.RuleCodes

namespace SchemaTypes

/-! ## The rules -/

/-- Every diagnostic of a list is about the structure of the schema. -/
def Structural (ds : List Diagnostic) : Prop :=
  ∀ d ∈ ds, d.code.stage = .structural

namespace Structural

theorem of_reportedAt {span : Span} {codes : List Code} {ds : List Diagnostic}
    (h : ReportedAt span codes ds) (hcodes : ∀ c ∈ codes, c.stage = .structural) :
    Structural ds :=
  fun d hd => hcodes _ (h d hd).1

theorem flatten {found : List (List Diagnostic)} (h : ∀ ds ∈ found, Structural ds) :
    Structural found.flatten := by
  intro d hd
  obtain ⟨ds, hds, hd⟩ := List.mem_flatten.1 hd
  exact h ds hds d hd

end Structural

namespace Validation

variable {s : Schema} {id : FieldId} {f : FieldDecl} {ds : List Diagnostic}

theorem classFindings_structural {c : ClassId} (h : classFindings s c = some ds) :
    Structural ds := by
  obtain ⟨d, -, hreported⟩ := classFindings_reportedAt h
  exact .of_reportedAt hreported (by decide)

/-- What the rules say of a field, its type left aside, is structural. -/
theorem fieldShape_structural (h : fieldShape s id f = some ds) : Structural ds :=
  .of_reportedAt (fieldShape_reportedAt h) (by decide)

theorem lengths_structural (s : Schema) : Structural (lengths s) := by
  intro d hd
  obtain ⟨n, -, hd⟩ := List.mem_flatMap.1 hd
  exact Structural.of_reportedAt (dataTypeLength_reportedAt n) (by decide) d hd

end Validation

/-! ## The failures -/

theorem FailureCause.stage_code (c : FailureCause) : c.code.stage ≠ .structural := by
  cases c <;> decide

theorem FailureCause.code_injective : Function.Injective FailureCause.code := by
  intro c c' h
  cases c <;> cases c' <;> first | rfl | cases h

/-- The key of a failure tells everything about it. -/
theorem Failure.eq_of_failureKey_eq {f g : Failure}
    (h : f.toDiagnostic.failureKey = g.toDiagnostic.failureKey) : f = g := by
  obtain ⟨cause, name, span⟩ := f
  obtain ⟨cause', name', span'⟩ := g
  obtain rfl : cause = cause' := FailureCause.code_injective (congrArg FailureKey.code h)
  have hspan : span = span' := Option.some.inj (congrArg FailureKey.span h)
  have hmessage : Failure.message ⟨cause, name, span⟩ = Failure.message ⟨cause, name', span'⟩ :=
    congrArg FailureKey.message h
  have hname : name = name' := by
    cases cause <;> simpa [Failure.message, ← String.toList_inj] using hmessage
  rw [hname, hspan]

theorem Failure.toDiagnostic_injective : Function.Injective Failure.toDiagnostic := by
  intro f g heq
  exact Failure.eq_of_failureKey_eq (congrArg Diagnostic.failureKey heq)

/-- Whether a diagnostic reports that a data type fails to resolve. -/
def Diagnostic.isFailure (d : Diagnostic) : Bool :=
  d.code ∈ [Code.recursiveTypedef, .unmappedType, .missingEnum, .missingPackage]

theorem Diagnostic.isFailure_iff {d : Diagnostic} : d.isFailure ↔ d.code.stage ≠ .structural := by
  unfold isFailure
  cases d.code <;> decide

theorem Structural.filter_isFailure {ds : List Diagnostic} (h : Structural ds) :
    ds.filter (·.isFailure) = [] := by
  rw [List.filter_eq_nil_iff]
  intro d hd hfailure
  exact Diagnostic.isFailure_iff.1 hfailure (h d hd)

namespace Schema

variable {s : Schema} {checkLengths : Bool} {findings failures : List Diagnostic} {d : Diagnostic}

/-- The failure of a field's type, if it has one. -/
def fieldFailure (s : Schema) (id : FieldId) : Option (List Diagnostic) := do
  let f ← s.field? id
  let answer ← s.answer? f.dataType
  pure (typeFindings f answer)

theorem fieldFailure_eq_some_iff {id : FieldId} {ds : List Diagnostic} :
    s.fieldFailure id = some ds ↔ ∃ f answer, s.field? id = some f ∧
      s.answer? f.dataType = some answer ∧ typeFindings f answer = ds := by
  simp [fieldFailure, Option.bind_eq_some_iff]

/-- Every finding about a field's type is a failure. -/
theorem filter_typeFindings (f : FieldDecl) (answer : Except Failure Descriptor) :
    (typeFindings f answer).filter (·.isFailure) = typeFindings f answer := by
  rw [List.filter_eq_self]
  intro d hd
  cases answer with
  | ok descriptor => cases hd
  | error failure =>
    obtain rfl := List.mem_singleton.1 hd
    exact Diagnostic.isFailure_iff.2 failure.cause.stage_code

/-- Of what is reported of a field, the failure of its type is the part that fails. -/
theorem fieldFailure_of_fieldReport {id : FieldId} {ds : List Diagnostic}
    (h : s.fieldReport id = some ds) : s.fieldFailure id = some (ds.filter (·.isFailure)) := by
  simp only [fieldReport, Option.bind_eq_bind, Option.bind_eq_some_iff] at h
  obtain ⟨f, hf, shape, hshape, answer, hanswer, hds⟩ := h
  obtain rfl := Option.some.inj hds
  refine fieldFailure_eq_some_iff.2 ⟨f, answer, hf, hanswer, ?_⟩
  rw [List.filter_append, (Validation.fieldShape_structural hshape).filter_isFailure,
    filter_typeFindings, List.nil_append]

/-- **The failures among the findings** are those of the fields, in the order of the fields. -/
theorem filter_freshFindings (h : s.freshFindings checkLengths = some findings) :
    ∃ found, s.fieldIds.mapM s.fieldFailure = some found ∧
      findings.filter (·.isFailure) = found.flatten := by
  simp only [freshFindings, Option.bind_eq_bind, Option.bind_eq_some_iff] at h
  obtain ⟨classes, hclasses, fields, hfields, hfindings⟩ := h
  obtain rfl := Option.some.inj hfindings
  have hclass : classes.flatten.filter (·.isFailure) = [] :=
    (Structural.flatten fun ds hds => by
      obtain ⟨c, -, hc⟩ := (mem_of_mapM hclasses).1 hds
      exact Validation.classFindings_structural hc).filter_isFailure
  have hlength : (if checkLengths then Validation.lengths s else []).filter (·.isFailure) = [] := by
    split
    · exact (Validation.lengths_structural s).filter_isFailure
    · rfl
  refine ⟨_, mapM_of_imp (fun _ _ => fieldFailure_of_fieldReport) hfields, ?_⟩
  rw [List.filter_append, List.filter_append, hclass, hlength, List.nil_append, List.append_nil,
    List.filter_flatten]

/-- Of the findings those that are not structural report the types of fields. -/
theorem mem_freshFindings_iff (h : s.freshFindings checkLengths = some findings)
    (hd : d.code.stage ≠ .structural) :
    d ∈ findings ↔ ∃ id f failure, s.field? id = some f ∧
      s.answer? f.dataType = some (.error failure) ∧ d = Validation.typeFinding f failure := by
  obtain ⟨found, hfound, hfilter⟩ := filter_freshFindings h
  have hmem : d ∈ findings ↔ d ∈ found.flatten := by
    rw [← hfilter, List.mem_filter, and_iff_left (Diagnostic.isFailure_iff.2 hd)]
  simp only [hmem, List.mem_flatten, mem_of_mapM hfound, fieldFailure_eq_some_iff]
  constructor
  · rintro ⟨_, ⟨id, -, f, answer, hf, hanswer, rfl⟩, hd⟩
    cases answer with
    | ok descriptor => cases hd
    | error failure => exact ⟨id, f, failure, hf, hanswer, List.mem_singleton.1 hd⟩
  · rintro ⟨id, f, failure, hf, hanswer, rfl⟩
    exact ⟨_, ⟨id, mem_fieldIds.2 ⟨f, hf⟩, f, _, hf, hanswer, rfl⟩, List.mem_singleton_self _⟩

theorem mem_typedefFailures_iff (h : s.typedefFailures = some failures) :
    d ∈ failures ↔ ∃ t td failure, s.typedef? t = some td ∧
      s.answer? td.dataType = some (.error failure) ∧ d = failure.toDiagnostic := by
  simp only [typedefFailures, Option.bind_eq_bind, Option.bind_eq_some_iff] at h
  obtain ⟨all, hall, hfailures⟩ := h
  obtain rfl := Option.some.inj hfailures
  simp only [List.mem_flatten, mem_of_mapM hall]
  constructor
  · rintro ⟨ds, ⟨t, -, hreport⟩, hmem⟩
    simp only [typedefFailure, Option.bind_eq_bind, Option.bind_eq_some_iff] at hreport
    obtain ⟨td, htd, answer, hanswer, hds⟩ := hreport
    cases answer with
    | ok descriptor =>
      obtain rfl := Option.some.inj hds
      cases hmem
    | error failure =>
      obtain rfl := Option.some.inj hds
      exact ⟨t, td, failure, htd, hanswer, List.mem_singleton.1 hmem⟩
  · rintro ⟨t, td, failure, htd, hanswer, rfl⟩
    refine ⟨_, ⟨t, mem_typedefIds.2 ⟨td, htd⟩, ?_⟩, List.mem_singleton_self _⟩
    simp [typedefFailure, htd, hanswer]

/-! ## Their keys -/

theorem failureKey_mem_findings (h : s.freshFindings checkLengths = some findings)
    (failure : Failure) :
    failure.toDiagnostic.failureKey ∈ findings.map (·.failureKey) ↔ ∃ id f,
      s.field? id = some f ∧ s.answer? f.dataType = some (.error failure) := by
  rw [List.mem_map]
  constructor
  · rintro ⟨d, hd, hkey⟩
    have hcode : d.code = failure.cause.code := congrArg FailureKey.code hkey
    have hstage : d.code.stage ≠ .structural := hcode ▸ failure.cause.stage_code
    obtain ⟨id, f, failure', hf, hanswer, rfl⟩ := (mem_freshFindings_iff h hstage).1 hd
    obtain rfl := Failure.eq_of_failureKey_eq (f := failure') hkey
    exact ⟨id, f, hf, hanswer⟩
  · rintro ⟨id, f, hf, hanswer⟩
    have hmem := (mem_freshFindings_iff h failure.cause.stage_code).2 ⟨id, f, _, hf, hanswer, rfl⟩
    exact ⟨_, hmem, rfl⟩

theorem failureKey_mem_failures (h : s.typedefFailures = some failures) (failure : Failure) :
    failure.toDiagnostic.failureKey ∈ failures.map (·.failureKey) ↔ ∃ t td,
      s.typedef? t = some td ∧ s.answer? td.dataType = some (.error failure) := by
  rw [List.mem_map]
  constructor
  · rintro ⟨d, hd, hkey⟩
    obtain ⟨t, td, failure', htd, hanswer, rfl⟩ := (mem_typedefFailures_iff h).1 hd
    obtain rfl := Failure.eq_of_failureKey_eq hkey
    exact ⟨t, td, htd, hanswer⟩
  · rintro ⟨t, td, htd, hanswer⟩
    exact ⟨_, (mem_typedefFailures_iff h).2 ⟨t, td, _, htd, hanswer, rfl⟩, rfl⟩

/-! ## Failures reported once -/

theorem mem_keys_unseen {k : FailureKey} : ∀ {seen : List FailureKey} {ds : List Diagnostic},
    k ∈ (unseen seen ds).map (·.failureKey) ↔ k ∈ ds.map (·.failureKey) ∧ k ∉ seen
  | seen, [] => by simp [unseen]
  | seen, d :: ds => by
    rw [unseen]
    split
    · rw [mem_keys_unseen]
      simp only [List.map_cons, List.mem_cons]
      grind
    · rw [List.map_cons, List.mem_cons, mem_keys_unseen]
      simp only [List.map_cons, List.mem_cons]
      grind

/-- Each key is reported further once. -/
theorem nodup_keys_unseen : ∀ (seen : List FailureKey) (ds : List Diagnostic),
    ((unseen seen ds).map (·.failureKey)).Nodup
  | _, [] => by simp [unseen]
  | seen, d :: ds => by
    rw [unseen]
    split
    · exact nodup_keys_unseen seen ds
    · rw [List.map_cons, List.nodup_cons]
      refine ⟨fun hmem => ?_, nodup_keys_unseen _ ds⟩
      exact (mem_keys_unseen.1 hmem).2 List.mem_cons_self

/-- Of diagnostics whose keys differ, those are reported further whose keys have not been seen. -/
theorem mem_unseen_iff {seen : List FailureKey} {ds : List Diagnostic}
    (hkeys : ∀ d ∈ ds, ∀ e ∈ ds, d.failureKey = e.failureKey → d = e) {d : Diagnostic} :
    d ∈ unseen seen ds ↔ d ∈ ds ∧ d.failureKey ∉ seen := by
  constructor
  · intro hd
    exact ⟨(unseen_sublist seen ds).mem hd, (mem_keys_unseen.1 (List.mem_map_of_mem hd)).2⟩
  · rintro ⟨hd, hseen⟩
    obtain ⟨e, he, hkey⟩ :=
      List.mem_map.1 (mem_keys_unseen.2 ⟨List.mem_map_of_mem hd, hseen⟩)
    rwa [hkeys d hd e ((unseen_sublist seen ds).mem he) hkey.symm]

theorem count_eq_one_of_new {seen new whole : List FailureKey} {k : FailureKey}
    (hperm : whole.Perm (seen ++ new)) (hnodup : new.Nodup) (hseen : k ∉ seen) (hnew : k ∈ new) :
    whole.count k = 1 := by
  rw [hperm.count_eq, List.count_append, List.count_eq_zero.2 hseen, Nat.zero_add]
  exact List.count_eq_one_of_mem hnodup hnew

/-- A check reports what the rules find and the typedefs' failures whose keys are new. -/
theorem perm_wholeReport (findings failures : List Diagnostic) :
    (wholeReport findings failures).diagnostics.Perm
      (findings ++ unseen (findings.map (·.failureKey)) failures) := by
  rw [wholeReport_eq]
  exact Report.perm_ofDiagnostics _

theorem mem_keys_wholeReport {k : FailureKey} :
    k ∈ (wholeReport findings failures).diagnostics.map (·.failureKey) ↔
      k ∈ findings.map (·.failureKey) ∨ k ∈ failures.map (·.failureKey) := by
  rw [((perm_wholeReport findings failures).map _).mem_iff, List.map_append, List.mem_append,
    mem_keys_unseen]
  tauto

end Schema

end SchemaTypes
