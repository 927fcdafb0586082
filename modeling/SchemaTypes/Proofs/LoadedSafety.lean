/-
What loaded schemas are safe from: a look-up that leads nowhere, and a data
type without a package around it.

Look-ups are the only way in which a computation over a schema can be without a
result, so to have one is to have looked up nothing but what is there. `Safe`
lists the computations. In a well-formed schema whose declarations are in
packages all of them have results, and no failure among these is for the lack of
a package (`WellFormed.safe`); loading gives no other schema (`safe_of_load`).
-/
import SchemaTypes.Proofs.Acceptance
import SchemaTypes.Proofs.FailureReports
import SchemaTypes.Proofs.FreshTable
import SchemaTypes.Proofs.Verdict

namespace SchemaTypes

namespace Schema

/-- All handles lie in the tables and everything is in a package. Whatever is computed for a
handle, or in a run, has a result, and no package is ever missing. -/
structure Safe (s : Schema) : Prop where
  closed : s.Closed
  packaged : s.Packaged
  container : ∀ n, s.has n → ∃ outer, s.container? n = some outer
  containers : ∀ n, s.has n → ∃ outer, s.containers n = some outer
  superclasses : ∀ c, s.has (.classDecl c) → ∃ above, s.superclasses c = some above
  className : ∀ c, s.has (.classDecl c) → ∃ name, s.className c = some name
  typedefName : ∀ t, s.has (.typedef t) → ∃ name, s.typedefName t = some name
  cascade : ∀ x, s.has (.dataType x) → ∃ c, Cascade.ofDataType s x = some (some c)
  resolve : ∀ calls m x, Memo.Reached s calls m → s.has (.dataType x) →
    ∃ answer m', s.resolve m x = some (answer, m') ∧
      ∀ failure, answer = .error failure → failure.cause ≠ .missingPackage
  validate : ∀ calls m checkLengths, Memo.Reached s calls m →
    ∃ report m', s.validate checkLengths m = some (report, m') ∧
      ∀ d ∈ report.diagnostics, d.code ≠ .missingPackage
  check : ∀ checkLengths r, Run.Reached s checkLengths r →
    ∃ report r', r.check = some (report, r') ∧ ∀ d ∈ report.diagnostics, d.code ≠ .missingPackage
  table : ∀ checkLengths r, Run.Reached s checkLengths r →
    ∃ entries r' rows, r.resolvedFields = some (entries, r') ∧
      FieldTable.rows s entries = some rows

example : Code.missingPackage.text = "E9001" := rfl

variable {s : Schema} {checkLengths : Bool} {findings failures : List Diagnostic}

/-! ## Packages -/

theorem Packaged.exists_cascade (hp : s.Packaged) (h : s.Closed) {x : DataTypeId}
    (hx : s.has (.dataType x)) : ∃ c, Cascade.ofDataType s x = some (some c) := by
  obtain ⟨d, hd⟩ := exists_dataType hx
  rcases h.cascade hd with ⟨-, hcascade⟩ | ⟨-, hnone⟩
  · exact hcascade
  · exact absurd hnone (hp.cascade_ne_none x)

theorem Packaged.code_ne (hp : s.Packaged) (h : s.Closed)
    (hfindings : s.freshFindings checkLengths = some findings)
    (hfailures : s.typedefFailures = some failures) {d : Diagnostic}
    (hd : d ∈ findings ∨ d ∈ failures) : d.code ≠ .missingPackage := by
  intro hcode
  have hstage : d.code.stage ≠ .structural := by
    rw [hcode]
    decide
  have hfailure : ∃ x failure, s.Answers x (.error failure) ∧ d.code = failure.cause.code := by
    rcases hd with hd | hd
    · obtain ⟨_, f, failure, -, hanswer, rfl⟩ := (mem_freshFindings_iff hfindings hstage).1 hd
      exact ⟨f.dataType, failure, h.answer?_eq_some.1 hanswer, rfl⟩
    · obtain ⟨_, td, failure, -, hanswer, rfl⟩ := (mem_typedefFailures_iff hfailures).1 hd
      exact ⟨td.dataType, failure, h.answer?_eq_some.1 hanswer, rfl⟩
  obtain ⟨x, failure, hanswer, hcause⟩ := hfailure
  exact hp.cause_ne hanswer (FailureCause.code_injective (hcause.symm.trans hcode))

/-! ## Everything together -/

theorem WellFormed.safe (h : s.WellFormed) (hp : s.Packaged) : s.Safe where
  closed := h.closed
  packaged := hp
  container _ hn := by
    obtain ⟨outer, houter, -⟩ := h.closed.container hn
    exact ⟨outer, houter⟩
  containers _ hn := by
    obtain ⟨outer, houter, -⟩ := h.closed.exists_outward hn
    exact ⟨outer, containers_eq_some_iff.2 houter⟩
  superclasses c hc := by
    obtain ⟨above, habove, -⟩ := h.closed.superclasses (mem_classIds.2 (exists_class hc))
    exact ⟨above, habove⟩
  className c hc := by
    obtain ⟨d, hd⟩ := exists_class hc
    exact h.closed.className hd
  typedefName t ht := by
    obtain ⟨d, hd⟩ := exists_typedef ht
    exact h.closed.typedefName hd
  cascade _ hx := hp.exists_cascade h.closed hx
  resolve calls m x hm hx := by
    have hsound := hm.sound h.closed
    obtain ⟨answer, m', hcall⟩ :=
      h.closed.exists_resolve hsound (mem_dataTypeIds.2 (exists_dataType hx))
    refine ⟨answer, m', hcall, fun failure hfailure => ?_⟩
    subst hfailure
    exact hp.cause_ne (h.closed.resolve_sound hsound hcall).2
  validate calls m checkLengths hm := by
    obtain ⟨findings, m', hfindings, hvalidate⟩ := h.exists_validate hm checkLengths
    obtain ⟨failures, hfailures, -⟩ := h.closed.typedefFailures_tells
    refine ⟨_, m', hvalidate, fun d hd => hp.code_ne h.closed hfindings hfailures (.inl ?_)⟩
    exact (Report.perm_ofDiagnostics findings).mem_iff.1 hd
  check checkLengths r hr := by
    obtain ⟨findings, failures, r', hfindings, hfailures, hcheck⟩ := hr.exists_report h
    refine ⟨_, r', hcheck, fun d hd => hp.code_ne h.closed hfindings hfailures ?_⟩
    exact mem_or_mem_of_mem_unseen ((perm_wholeReport findings failures).mem_iff.1 hd)
  table checkLengths r hr := by
    obtain ⟨r', htable⟩ := hr.resolvedFields_eq h.closed
    obtain ⟨entries, rows, hentries, hrows⟩ := h.closed.exists_table
    exact ⟨entries, r', rows, by simp [htable, hentries], hrows⟩

end Schema

namespace Document

/-- **Loaded schemas are safe**, whatever the document, as long as it is accepted. -/
theorem safe_of_load {d : Document} {s : Schema} (h : load d = .ok s) : s.Safe :=
  (wellFormed_of_load h).safe (packaged_of_load h)

theorem safe_of_load_shop : ∃ s, load shop = .ok s ∧ s.Safe :=
  ⟨_, rfl, safe_of_load (d := shop) rfl⟩

end Document

end SchemaTypes
