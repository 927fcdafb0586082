/-
What the report of a check tells of the findings that went into it.

The queue between the rules and the report has no limit and drops nothing
(`Queue.offerAll_unlimited`), so a report counts each error that was found and
has all findings in the order of their places. Since sorting is stable, the two
batches of a check come out as one (`wholeReport_eq`). A typedef's failure is
left out only where one with its key is reported, so it is never left out of an
empty report (`wholeReport_isOk_iff`).
-/
import SchemaTypes.Proofs.FreshCheck
import SchemaTypes.Proofs.QueueHistory

namespace SchemaTypes

/-! ## A queue without a limit -/

namespace Queue

theorem offer_unlimited {q : Queue} (hq : q.config = .unlimited) (d : Diagnostic) :
    q.offer d = (true, q.keep d) := by
  simp [offer, limitReached, isRepeat, hq, QueueConfig.unlimited]

/-- All that is offered is kept, and the errors and warnings among it are counted. -/
theorem offerAll_unlimited (ds : List Diagnostic) : ∀ {q : Queue}, q.config = .unlimited →
    (q.offerAll ds).kept.toList = q.kept.toList ++ ds ∧
      (q.offerAll ds).errors = q.errors + ds.countP (·.isError) ∧
      (q.offerAll ds).warnings = q.warnings + ds.countP (·.severity == .warning) := by
  induction ds with
  | nil => exact fun _ => ⟨by simp [offerAll], by simp [offerAll], by simp [offerAll]⟩
  | cons d ds ih =>
    intro q hq
    have hoffer : q.offerAll (d :: ds) = (q.keep d).offerAll ds := by
      simp [offerAll, offer_unlimited hq]
    obtain ⟨hkept, herrors, hwarnings⟩ := ih (q := q.keep d) (by rw [keep_config, hq])
    rw [hoffer, hkept, herrors, hwarnings, keep_kept, keep_errors, keep_warnings, List.countP_cons,
      List.countP_cons]
    exact ⟨by simp, by omega, by omega⟩

end Queue

/-! ## Reports -/

namespace Report

theorem ofDiagnostics_eq (ds : List Diagnostic) : ofDiagnostics ds =
    { diagnostics := Diagnostic.sortByPlace ds
      errors := ds.countP (·.isError)
      warnings := ds.countP (·.severity == .warning) } := by
  obtain ⟨hkept, herrors, hwarnings⟩ :=
    Queue.offerAll_unlimited ds (q := { config := .unlimited }) rfl
  simp [ofDiagnostics, Queue.flush, hkept, herrors, hwarnings]

theorem diagnostics_ofDiagnostics (ds : List Diagnostic) :
    (ofDiagnostics ds).diagnostics = Diagnostic.sortByPlace ds := by
  rw [ofDiagnostics_eq]

theorem perm_ofDiagnostics (ds : List Diagnostic) : (ofDiagnostics ds).diagnostics.Perm ds := by
  rw [diagnostics_ofDiagnostics]
  exact Diagnostic.sortByPlace_perm ds

theorem ofDiagnostics_append (xs ys : List Diagnostic) :
    ofDiagnostics ((ofDiagnostics xs).diagnostics ++ ys) = ofDiagnostics (xs ++ ys) := by
  have hperm : (Diagnostic.sortByPlace xs ++ ys).Perm (xs ++ ys) :=
    (Diagnostic.sortByPlace_perm xs).append_right ys
  simp only [ofDiagnostics_eq, Diagnostic.sortByPlace_append, hperm.countP_eq]

theorem isOk_ofDiagnostics_iff (ds : List Diagnostic) :
    (ofDiagnostics ds).isOk ↔ ∀ d ∈ (ofDiagnostics ds).diagnostics, ¬d.isError := by
  rw [ofDiagnostics_eq]
  simp only [isOk, beq_iff_eq, List.countP_eq_zero]
  exact forall_congr' fun d => by rw [(Diagnostic.sortByPlace_perm ds).mem_iff]

theorem counts_ofDiagnostics {ds : List Diagnostic} (h : ∀ d ∈ ds, d.isError) :
    (ofDiagnostics ds).errors = ds.length ∧ (ofDiagnostics ds).warnings = 0 := by
  rw [ofDiagnostics_eq]
  refine ⟨List.countP_eq_length.2 h, List.countP_eq_zero.2 fun d hd hwarning => ?_⟩
  have herror := h d hd
  simp only [Diagnostic.isError, beq_iff_eq] at herror hwarning
  simp [herror] at hwarning

theorem isOk_ofDiagnostics {ds : List Diagnostic} (h : ∀ d ∈ ds, d.isError) :
    (ofDiagnostics ds).isOk ↔ ds = [] := by
  rw [isOk, (counts_ofDiagnostics h).1]
  simp

end Report

namespace Schema

/-! ## Failures reported once -/

theorem unseen_sublist : ∀ (seen : List FailureKey) (ds : List Diagnostic),
    (unseen seen ds).Sublist ds
  | _, [] => .slnil
  | seen, d :: ds => by
    rw [unseen]
    split
    · exact (unseen_sublist seen ds).cons d
    · exact (unseen_sublist (d.failureKey :: seen) ds).cons_cons d

theorem unseen_nil_eq_nil_iff {ds : List Diagnostic} : unseen [] ds = [] ↔ ds = [] := by
  cases ds <;> simp [unseen]

/-- Only which of their keys have been seen matters. -/
theorem unseen_congr : ∀ {seen seen' : List FailureKey} {ds : List Diagnostic},
    (∀ d ∈ ds, d.failureKey ∈ seen ↔ d.failureKey ∈ seen') → unseen seen ds = unseen seen' ds
  | _, _, [], _ => rfl
  | seen, seen', d :: ds, h => by
    have hrest : ∀ e ∈ ds, e.failureKey ∈ seen ↔ e.failureKey ∈ seen' :=
      fun e he => h e (List.mem_cons_of_mem d he)
    have hnew : ∀ e ∈ ds, e.failureKey ∈ d.failureKey :: seen ↔
        e.failureKey ∈ d.failureKey :: seen' := by
      intro e he
      rw [List.mem_cons, List.mem_cons, hrest e he]
    rw [unseen, unseen, unseen_congr hrest, unseen_congr hnew]
    simp only [h d List.mem_cons_self]

/-! ## The report of a check -/

variable {findings failures : List Diagnostic}

/-- **Two batches are one.** What a check reports is the report of everything that it finds, the
typedefs' failures behind the rest. -/
theorem wholeReport_eq (findings failures : List Diagnostic) : wholeReport findings failures =
    .ofDiagnostics (findings ++ unseen (findings.map (·.failureKey)) failures) := by
  have hextra : unseen ((Report.ofDiagnostics findings).diagnostics.map (·.failureKey)) failures =
      unseen (findings.map (·.failureKey)) failures :=
    unseen_congr fun _ _ => ((Report.perm_ofDiagnostics findings).map _).mem_iff
  simp only [wholeReport, hextra]
  split
  · next hnil => rw [List.isEmpty_iff.1 hnil, List.append_nil]
  · exact Report.ofDiagnostics_append findings _

/-- What a check reports is among what the rules find or among the typedefs' failures. -/
theorem mem_or_mem_of_mem_unseen {seen : List FailureKey} {d : Diagnostic}
    (hd : d ∈ findings ++ unseen seen failures) : d ∈ findings ∨ d ∈ failures :=
  (List.mem_append.1 hd).imp_right (unseen_sublist seen failures).mem

theorem wholeReport_isOk_iff (hfindings : ∀ d ∈ findings, d.isError)
    (hfailures : ∀ d ∈ failures, d.isError) :
    (wholeReport findings failures).isOk ↔ findings = [] ∧ failures = [] := by
  rw [wholeReport_eq, Report.isOk_ofDiagnostics, List.append_eq_nil_iff]
  · -- Nothing was reported before the typedefs, so no failure of theirs is left out.
    refine and_congr_right fun hnil => ?_
    rw [hnil, List.map_nil, unseen_nil_eq_nil_iff]
  · intro d hd
    rcases mem_or_mem_of_mem_unseen hd with hd | hd
    · exact hfindings d hd
    · exact hfailures d hd

end Schema

end SchemaTypes
