/-
What a check adds to the report of a validation.

A check validates the schema and then resolves every typedef, and it adds the
failures of typedefs to the report whose keys are not there yet. Its loop keeps
the keys that it has met, so that each key is added once (`nodup_keys_unseen`),
and since a key tells everything about a failure, leaving out a key that is
there leaves out nothing but what the report says already (`Adds`).
-/
import SchemaTypes.Proofs.FailureReports
import SchemaTypes.Proofs.Verdict

namespace SchemaTypes

namespace Schema

/-- A diagnostic reports that the data type behind a typedef fails to resolve. -/
def ReportsTypedef (s : Schema) (d : Diagnostic) : Prop :=
  ∃ t td failure, s.typedef? t = some td ∧ s.Answers td.dataType (.error failure) ∧
    d = failure.toDiagnostic

/-- `whole` has `reported` and the typedefs' failures with other keys, each key once. -/
structure Adds (s : Schema) (reported extra whole : List Diagnostic) : Prop where
  /-- Nothing that was reported is lost or changed, and nothing else comes in. -/
  perm : whole.Perm (reported ++ extra)
  mem_iff : ∀ d, d ∈ extra ↔
    s.ReportsTypedef d ∧ d.failureKey ∉ reported.map (·.failureKey)
  nodup : (extra.map (·.failureKey)).Nodup

variable {s : Schema} {failures : List Diagnostic} {d : Diagnostic}

theorem Closed.mem_typedefFailures (h : s.Closed) (hfailures : s.typedefFailures = some failures) :
    d ∈ failures ↔ s.ReportsTypedef d := by
  simp only [mem_typedefFailures_iff hfailures, h.answer?_eq_some, ReportsTypedef]

theorem eq_of_reportsTypedef {e : Diagnostic} (hd : s.ReportsTypedef d) (he : s.ReportsTypedef e)
    (hkey : d.failureKey = e.failureKey) : d = e := by
  obtain ⟨_, _, failure, -, -, rfl⟩ := hd
  obtain ⟨_, _, failure', -, -, rfl⟩ := he
  rw [Failure.eq_of_failureKey_eq hkey]

/-- What the rules find and the typedefs' failures make up the report of a check. -/
theorem Closed.exists_adds (h : s.Closed) (hfailures : s.typedefFailures = some failures)
    (findings : List Diagnostic) : ∃ extra, s.Adds (Report.ofDiagnostics findings).diagnostics extra
      (wholeReport findings failures).diagnostics := by
  have hperm := Report.perm_ofDiagnostics findings
  have hkeys : ∀ d ∈ failures, ∀ e ∈ failures, d.failureKey = e.failureKey → d = e := by
    intro d hd e he
    exact eq_of_reportsTypedef ((h.mem_typedefFailures hfailures).1 hd)
      ((h.mem_typedefFailures hfailures).1 he)
  refine ⟨unseen (findings.map (·.failureKey)) failures, ?_, fun d => ?_, nodup_keys_unseen _ _⟩
  · exact (perm_wholeReport findings failures).trans (hperm.symm.append_right _)
  · rw [mem_unseen_iff hkeys, h.mem_typedefFailures hfailures, (hperm.map _).mem_iff]

theorem Adds.count_key {reported extra whole : List Diagnostic} (h : s.Adds reported extra whole)
    (hd : d ∈ extra) : (whole.map (·.failureKey)).count d.failureKey = 1 := by
  have hperm := h.perm.map (·.failureKey)
  rw [List.map_append] at hperm
  exact count_eq_one_of_new hperm h.nodup ((h.mem_iff d).1 hd).2 (List.mem_map_of_mem hd)

end Schema

namespace Run

variable {s : Schema} {checkLengths : Bool} {r : Run}

/-- **A check adds the typedefs' failures that are not reported yet.** Wherever in a run it is
made, it reports what a validation reports and, for each code, message and place with which a
typedef fails and which the validation does not report, one diagnostic more. -/
theorem check_adds_failures (h : s.WellFormed) {m : Memo}
    {calls : List (DataTypeId × Except Failure Descriptor)} (hm : Memo.Reached s calls m)
    (hr : Reached s checkLengths r) :
    ∃ report m' whole r' extra, s.validate checkLengths m = some (report, m') ∧
      r.check = some (whole, r') ∧ s.Adds report.diagnostics extra whole.diagnostics ∧
      (∀ d, s.ReportsTypedef d → d.failureKey ∈ whole.diagnostics.map (·.failureKey)) ∧
      ∀ d ∈ extra, (whole.diagnostics.map (·.failureKey)).count d.failureKey = 1 := by
  obtain ⟨findings, m', hfindings, hvalidate⟩ := h.exists_validate hm checkLengths
  obtain ⟨findings', failures, r', hfindings', hfailures, hcheck⟩ := hr.exists_report h
  obtain rfl := Option.some.inj (hfindings.symm.trans hfindings')
  obtain ⟨extra, hadds⟩ := h.closed.exists_adds hfailures findings
  refine ⟨_, m', _, r', extra, hvalidate, hcheck, hadds, fun d hd => ?_,
    fun d hd => hadds.count_key hd⟩
  have hmem := (h.closed.mem_typedefFailures hfailures).2 hd
  exact Schema.mem_keys_wholeReport.2 (.inr (List.mem_map_of_mem hmem))

/-- In the sample the field `x` leads to `A`, and the walk from there names `B`. So the report of a
validation has the failure behind `A`, and a check adds the one behind `B`, which names `A`. -/
theorem check_adds_failures_sample : Schema.sample.WellFormed ∧
    Memo.Reached Schema.sample [] .empty ∧
    Reached Schema.sample true (start Schema.sample true) ∧
    Schema.sample.ReportsTypedef (Failure.toDiagnostic ⟨.recursiveTypedef, "p.A", .absent⟩) ∧
    ∃ report m' whole r' extra, Schema.sample.validate true .empty = some (report, m') ∧
      (start Schema.sample true).check = some (whole, r') ∧
      Schema.sample.Adds report.diagnostics extra whole.diagnostics ∧
      (∀ d, Schema.sample.ReportsTypedef d →
        d.failureKey ∈ whole.diagnostics.map (·.failureKey)) ∧
      ∀ d ∈ extra, (whole.diagnostics.map (·.failureKey)).count d.failureKey = 1 := by
  have hr : Reached Schema.sample true (start Schema.sample true) := .start .empty
  have way : Path Schema.sample.aliased? ⟨1⟩ [⟨1⟩, ⟨0⟩] ⟨1⟩ := .step rfl (.step rfl (.here _))
  have hanswer : Schema.sample.Answers ⟨1⟩ (.error ⟨.recursiveTypedef, "p.A", .absent⟩) :=
    .circular way (by decide) (by decide) rfl rfl rfl
  exact ⟨Schema.sample_wellFormed, .start, hr, ⟨⟨1⟩, _, _, rfl, hanswer, rfl⟩,
    check_adds_failures Schema.sample_wellFormed .start hr⟩

end Run

end SchemaTypes
