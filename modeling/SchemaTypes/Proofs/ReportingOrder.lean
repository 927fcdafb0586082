/-
The order in which a check reports what it finds.

`Found` and `Added` list the diagnostics as the rules come to them, rule by rule
and declaration by declaration. A check hands them out in two batches, each in
the order of its places, and what comes out is both batches put in the order of
the places at once (`check_sorts_findings`). Everything in it stands at a place
and counts as an error.
-/
import SchemaTypes.Proofs.FailureReports
import SchemaTypes.Proofs.Verdict

namespace SchemaTypes

open Validation

namespace Schema

/-! ## The order of the rules -/

/-- What the rules report of a class: its name, then its parent. -/
inductive ClassReports (s : Schema) : ClassId → List Diagnostic → Prop
  | intro {c : ClassId} {d : ClassDecl} {parent : List Diagnostic} (decl : s.class? c = some d)
    (final : finalParent s d = some parent) : ClassReports s c (classNaming d ++ parent)

/-- What the rules report of a field: its name, the twin that has the same one, the fields that
it shadows, those of its nearest superclass first, its marker, and its type. -/
inductive FieldReports (s : Schema) : FieldId → List Diagnostic → Prop
  | intro {id : FieldId} {f : FieldDecl} {twin marker : List Diagnostic} {above : List ClassId}
    {shadowed : List (List Diagnostic)} {answer : Except Failure Descriptor}
    (decl : s.field? id = some f)
    (duplicate : duplicateName s id f = some twin)
    (walk : s.superclasses f.owner = some above)
    (nearestFirst : List.IsChain (fun c a => s.parent? c = some a) (f.owner :: above))
    (complete : ∀ a, a ∈ above ↔ s.Extends f.owner a)
    (shadows : List.Forall₂ (fun a ds => shadowedIn s id f a = some ds) above shadowed)
    (marked : fieldMarker s f = some marker)
    (type : s.Answers f.dataType answer) :
    FieldReports s id (fieldNaming f ++ twin ++ shadowed.flatten ++ marker ++
      typeFindings f answer)

/-- What is reported of a typedef: that its type fails, if it does. -/
inductive TypedefReports (s : Schema) : TypedefId → List Diagnostic → Prop
  | resolves {t : TypedefId} {td : TypedefDecl} {descriptor : Descriptor}
    (decl : s.typedef? t = some td) (type : s.Answers td.dataType (.ok descriptor)) :
    TypedefReports s t []
  | fails {t : TypedefId} {td : TypedefDecl} {failure : Failure}
    (decl : s.typedef? t = some td) (type : s.Answers td.dataType (.error failure)) :
    TypedefReports s t [failure.toDiagnostic]

/-- What the rules find: all about the classes, one after the other, all about the fields, and
what is wrong with the lengths of the data types. -/
inductive Found (s : Schema) (checkLengths : Bool) : List Diagnostic → Prop
  | intro {classes fields : List (List Diagnostic)}
    (ofClasses : List.Forall₂ s.ClassReports s.classIds classes)
    (ofFields : List.Forall₂ s.FieldReports s.fieldIds fields) :
    Found s checkLengths (classes.flatten ++ fields.flatten ++
      if checkLengths then s.dataTypes.toList.flatMap dataTypeLength else [])

/-- What a check adds: the failures of the typedefs, one after the other, save those whose keys
came up before. -/
inductive Added (s : Schema) (found : List Diagnostic) : List Diagnostic → Prop
  | intro {failures : List (List Diagnostic)}
    (ofTypedefs : List.Forall₂ s.TypedefReports s.typedefIds failures) :
    Added s found (unseen (found.map (·.failureKey)) failures.flatten)

variable {s : Schema} {checkLengths : Bool} {findings failures : List Diagnostic}

theorem classReports_of_findings {c : ClassId} {ds : List Diagnostic}
    (h : classFindings s c = some ds) : s.ClassReports c ds := by
  simp only [classFindings, Option.bind_eq_bind, Option.bind_eq_some_iff] at h
  obtain ⟨d, hd, parent, hparent, hds⟩ := h
  obtain rfl := Option.some.inj hds
  exact .intro hd hparent

theorem Closed.fieldReports_of_report (h : s.Closed) {id : FieldId} {ds : List Diagnostic}
    (hreport : s.fieldReport id = some ds) : s.FieldReports id ds := by
  simp only [fieldReport, fieldShape, shadowing, Option.bind_eq_bind, Option.bind_eq_some_iff]
    at hreport
  obtain ⟨f, hf, shape, ⟨twin, htwin, _, ⟨above, habove, shadowed, hshadowed, hflat⟩, marker,
    hmarker, hshape⟩, answer, hanswer, hds⟩ := hreport
  obtain rfl := Option.some.inj hflat
  obtain rfl := Option.some.inj hshape
  obtain rfl := Option.some.inj hds
  obtain ⟨above', habove', hcomplete⟩ := h.superclasses (mem_classIds.2 (h.field_owner hf))
  obtain rfl := Option.some.inj (habove.symm.trans habove')
  exact .intro hf htwin habove (isChain_superclasses habove) hcomplete
    (forall₂_of_mapM hshadowed) hmarker (h.answer?_eq_some.1 hanswer)

theorem Closed.typedefReports_of_failure (h : s.Closed) {t : TypedefId} {ds : List Diagnostic}
    (hfailure : s.typedefFailure t = some ds) : s.TypedefReports t ds := by
  simp only [typedefFailure, Option.bind_eq_bind, Option.bind_eq_some_iff] at hfailure
  obtain ⟨td, htd, answer, hanswer, hds⟩ := hfailure
  have htype := h.answer?_eq_some.1 hanswer
  cases answer with
  | ok descriptor =>
    obtain rfl := Option.some.inj hds
    exact .resolves htd htype
  | error failure =>
    obtain rfl := Option.some.inj hds
    exact .fails htd htype

theorem Closed.found_of_freshFindings (h : s.Closed)
    (hfindings : s.freshFindings checkLengths = some findings) :
    s.Found checkLengths findings := by
  simp only [freshFindings, Option.bind_eq_bind, Option.bind_eq_some_iff] at hfindings
  obtain ⟨classes, hclasses, fields, hfields, hall⟩ := hfindings
  obtain rfl := Option.some.inj hall
  exact .intro ((forall₂_of_mapM hclasses).imp fun _ _ => classReports_of_findings)
    ((forall₂_of_mapM hfields).imp fun _ _ => h.fieldReports_of_report)

theorem Closed.added_of_typedefFailures (h : s.Closed)
    (hfailures : s.typedefFailures = some failures) (found : List Diagnostic) :
    s.Added found (unseen (found.map (·.failureKey)) failures) := by
  simp only [typedefFailures, Option.bind_eq_bind, Option.bind_eq_some_iff] at hfailures
  obtain ⟨all, hall, hflat⟩ := hfailures
  obtain rfl := Option.some.inj hflat
  exact .intro ((forall₂_of_mapM hall).imp fun _ _ => h.typedefReports_of_failure)

/-! ## Places and severities -/

theorem place_of_mem_freshFindings (h : s.freshFindings checkLengths = some findings)
    {d : Diagnostic} (hd : d ∈ findings) : ∃ span, d.primarySpan? = some span := by
  rw [freshFindings_eq] at h
  obtain ⟨ofRules, hrules, rfl⟩ := Option.map_eq_some_iff.1 h
  rcases List.mem_append.1 hd with hd | hd
  · obtain ⟨span, -, hspan⟩ := mem_freshFindings hrules hd
    exact ⟨span, hspan⟩
  · split at hd
    · obtain ⟨span, -, hspan⟩ := mem_lengths hd
      exact ⟨span, hspan⟩
    · cases hd

theorem mem_typedefFailures (h : s.typedefFailures = some failures) {d : Diagnostic}
    (hd : d ∈ failures) : ∃ span, d.code ∈ failureCodes ∧ d.primarySpan? = some span := by
  obtain ⟨_, _, failure, -, -, rfl⟩ := (mem_typedefFailures_iff h).1 hd
  exact ⟨failure.span, failure.cause.code_mem, rfl⟩

theorem WellFormed.isError_of_mem (h : s.WellFormed)
    (hfindings : s.freshFindings checkLengths = some findings)
    (hfailures : s.typedefFailures = some failures) {d : Diagnostic}
    (hd : d ∈ findings ∨ d ∈ failures) : d.isError := by
  obtain ⟨findings', hfindings', hrules⟩ := h.freshFindings_tells checkLengths
  obtain ⟨failures', hfailures', htypedefs⟩ := h.closed.typedefFailures_tells
  obtain rfl := Option.some.inj (hfindings.symm.trans hfindings')
  obtain rfl := Option.some.inj (hfailures.symm.trans hfailures')
  rcases hd with hd | hd
  · exact hrules.isError d hd
  · exact htypedefs.isError d hd

end Schema

/-! ## The report of a check -/

/-- A report has a batch of errors, sorted, each of them at a place, and counts them. -/
structure Report.Sorts (report : Report) (batch : List Diagnostic) : Prop where
  sorted : Diagnostic.StablySorted batch report.diagnostics
  placed : ∀ d ∈ report.diagnostics, ∃ span, d.primarySpan? = some span
  errors : report.errors = report.diagnostics.length
  warnings : report.warnings = 0

theorem Report.sorts_ofDiagnostics {batch : List Diagnostic} (herrors : ∀ d ∈ batch, d.isError)
    (hplaced : ∀ d ∈ batch, ∃ span, d.primarySpan? = some span) :
    (Report.ofDiagnostics batch).Sorts batch := by
  have hperm := Report.perm_ofDiagnostics batch
  obtain ⟨hcount, hwarnings⟩ := Report.counts_ofDiagnostics herrors
  refine ⟨?_, fun d hd => hplaced d (hperm.mem_iff.1 hd), ?_, hwarnings⟩
  · rw [Report.diagnostics_ofDiagnostics]
    exact Diagnostic.stablySorted_sortByPlace batch
  · rw [hcount, hperm.length_eq]

namespace Run

variable {s : Schema} {checkLengths : Bool} {r : Run}

/-- **A check sorts what it finds.** Wherever in a run it is made, its report is what the rules
find followed by what the typedefs add, in the order of the rules, brought into the order of the
places all at once. -/
theorem check_sorts_findings (h : s.WellFormed) (hr : Reached s checkLengths r) :
    ∃ found extra m' report r', s.Found checkLengths found ∧ s.Added found extra ∧
      s.validate checkLengths r.memo = some (.ofDiagnostics found, m') ∧
      r.check = some (report, r') ∧ report = .ofDiagnostics (found ++ extra) ∧
      report.Sorts (found ++ extra) := by
  obtain ⟨findings, failures, r', hfindings, hfailures, hcheck⟩ := hr.exists_report h
  obtain ⟨calls, m, hm, rfl⟩ := hr.exists_reached_memo
  obtain ⟨findings', m', hfindings', hvalidate⟩ := h.exists_validate hm checkLengths
  obtain rfl := Option.some.inj (hfindings.symm.trans hfindings')
  rw [Schema.wholeReport_eq] at hcheck
  refine ⟨findings, _, m', _, r', h.closed.found_of_freshFindings hfindings,
    h.closed.added_of_typedefFailures hfailures findings, hvalidate, hcheck, rfl, ?_⟩
  refine Report.sorts_ofDiagnostics (fun d hd => ?_) fun d hd => ?_
  · exact h.isError_of_mem hfindings hfailures (Schema.mem_or_mem_of_mem_unseen hd)
  · rcases Schema.mem_or_mem_of_mem_unseen hd with hd | hd
    · exact Schema.place_of_mem_freshFindings hfindings hd
    · obtain ⟨span, -, hspan⟩ := Schema.mem_typedefFailures hfailures hd
      exact ⟨span, hspan⟩

/-- In the sample no declaration has a place in a text, so all that is found stands at one. -/
theorem check_sorts_findings_sample : Schema.sample.WellFormed ∧
    Reached Schema.sample true (start Schema.sample true) ∧
    ∃ found extra m' report r', Schema.sample.Found true found ∧
      Schema.sample.Added found extra ∧
      Schema.sample.validate true (start Schema.sample true).memo =
        some (.ofDiagnostics found, m') ∧
      (start Schema.sample true).check = some (report, r') ∧
      report = .ofDiagnostics (found ++ extra) ∧ report.Sorts (found ++ extra) := by
  have hr : Reached Schema.sample true (start Schema.sample true) := .start .empty
  exact ⟨Schema.sample_wellFormed, hr, check_sorts_findings Schema.sample_wellFormed hr⟩

end Run

end SchemaTypes
