/-
The switch for the rules on lengths.

The lengths have codes of their own (`lengthCodes`), which neither another rule
nor a failure to resolve ever has. So their findings stand between others
without having a part in which failures of typedefs are new, and a report
without them is the report with them less these codes
(`check_without_lengths`).
-/
import SchemaTypes.Proofs.ReportingOrder

namespace SchemaTypes

open Validation

/-! ## Reports with some codes deleted -/

/-- The report `off` is the report `on` less the diagnostics with some codes: the others stand as
they did, and there are as many errors less as were deleted. -/
structure Report.Without (codes : List Code) (on off : Report) : Prop where
  diagnostics : off.diagnostics = on.diagnostics.filter (·.code ∉ codes)
  errors : off.errors + on.diagnostics.countP (·.code ∈ codes) = on.errors
  warnings : off.warnings = on.warnings

/-- Deleting codes from a batch of errors deletes them from its report. -/
theorem Report.without_ofDiagnostics (codes : List Code) {batch : List Diagnostic}
    (h : ∀ d ∈ batch, d.isError) :
    (ofDiagnostics batch).Without codes (ofDiagnostics (batch.filter (·.code ∉ codes))) := by
  have hrest : ∀ d ∈ batch.filter (·.code ∉ codes), d.isError :=
    fun d hd => h d (List.mem_of_mem_filter hd)
  obtain ⟨herrors, hwarnings⟩ := counts_ofDiagnostics h
  obtain ⟨herrors', hwarnings'⟩ := counts_ofDiagnostics hrest
  refine ⟨?_, ?_, hwarnings'.trans hwarnings.symm⟩
  · rw [diagnostics_ofDiagnostics, diagnostics_ofDiagnostics, Diagnostic.sortByPlace_filter]
  · rw [herrors, herrors', (perm_ofDiagnostics batch).countP_eq, ← List.countP_eq_length_filter,
      Nat.add_comm, List.length_eq_countP_add_countP (·.code ∈ codes)]
    simp

namespace Schema

variable {s : Schema} {ofRules ofLengths failures : List Diagnostic}

/-- What has a length's code is not the same failure as one of a typedef. -/
theorem failureKey_ne_of_length {d e : Diagnostic} (hd : d.code ∈ lengthCodes)
    (he : e.code ∈ failureCodes) : e.failureKey ≠ d.failureKey := by
  intro hkey
  have hcode : e.code = d.code := congrArg FailureKey.code hkey
  rw [hcode] at he
  revert hd he
  cases d.code <;> decide

/-- Lengths do not decide which failures of typedefs are new. -/
theorem unseen_lengths (hlengths : ∀ d ∈ ofLengths, d.code ∈ lengthCodes)
    (hfailures : ∀ d ∈ failures, d.code ∈ failureCodes) :
    unseen ((ofRules ++ ofLengths).map (·.failureKey)) failures =
      unseen (ofRules.map (·.failureKey)) failures := by
  refine unseen_congr fun e he => ?_
  rw [List.map_append, List.mem_append, or_iff_left]
  rw [List.mem_map]
  rintro ⟨d, hd, hkey⟩
  exact failureKey_ne_of_length (hlengths d hd) (hfailures e he) hkey.symm

/-- Less the codes of the lengths, a batch with lengths is the batch without. -/
theorem filter_lengths (hrules : ∀ d ∈ ofRules, d.code ∉ lengthCodes)
    (hlengths : ∀ d ∈ ofLengths, d.code ∈ lengthCodes)
    (hfailures : ∀ d ∈ failures, d.code ∈ failureCodes) :
    (ofRules ++ ofLengths ++
        unseen ((ofRules ++ ofLengths).map (·.failureKey)) failures).filter
        (·.code ∉ lengthCodes) =
      ofRules ++ unseen (ofRules.map (·.failureKey)) failures := by
  have hkept : ofRules.filter (·.code ∉ lengthCodes) = ofRules :=
    List.filter_eq_self.2 fun d hd => decide_eq_true (hrules d hd)
  have hdropped : ofLengths.filter (·.code ∉ lengthCodes) = [] :=
    List.filter_eq_nil_iff.2 fun d hd => by simp [hlengths d hd]
  have hadded : ∀ seen : List FailureKey,
      (unseen seen failures).filter (·.code ∉ lengthCodes) = unseen seen failures := by
    refine fun seen => List.filter_eq_self.2 fun d hd => decide_eq_true ?_
    have hcode := hfailures d ((unseen_sublist seen failures).mem hd)
    revert hcode
    cases d.code <;> decide
  rw [List.filter_append, List.filter_append, hkept, hdropped, hadded,
    unseen_lengths hlengths hfailures, List.append_nil]

theorem filter_findings {findings : List Diagnostic} (hon : s.freshFindings true = some findings)
    (hoff : s.freshFindings false = some ofRules) (hfailures : s.typedefFailures = some failures) :
    (findings ++ unseen (findings.map (·.failureKey)) failures).filter (·.code ∉ lengthCodes) =
      ofRules ++ unseen (ofRules.map (·.failureKey)) failures := by
  have hall : findings = ofRules ++ lengths s := by
    rw [freshFindings_eq, hoff] at hon
    exact (Option.some.inj hon).symm
  have hrules : ∀ d ∈ ofRules, d.code ∉ lengthCodes := by
    intro d hd
    obtain ⟨_, hcode, -⟩ := mem_freshFindings hoff hd
    revert hcode
    cases d.code <;> decide
  have hlengths : ∀ d ∈ lengths s, d.code ∈ lengthCodes := by
    intro d hd
    obtain ⟨_, hcode, -⟩ := mem_lengths hd
    exact hcode
  have hfailed : ∀ d ∈ failures, d.code ∈ failureCodes := by
    intro d hd
    obtain ⟨_, hcode, -⟩ := mem_typedefFailures hfailures hd
    exact hcode
  rw [hall, filter_lengths hrules hlengths hfailed]

/-! ## A schema with too long a number -/

/-- In class `c` the field `Amount` has too many digits, a name to be found fault with, and the
same place as an unknown type. -/
def overlong : Schema where
  names := ["p", "c", "Amount", "T"].foldl NameTable.insert .empty
  packages := #[{ name := "p" }]
  classes := #[{ name := "c", package := some ⟨0⟩, fields := #[⟨0⟩] }]
  fields := #[{ name := "Amount", owner := ⟨0⟩, dataType := ⟨0⟩ }]
  typedefs := #[{ name := "T", package := some ⟨0⟩, dataType := ⟨1⟩ }]
  enums := #[]
  dataTypes := #[{ form := .elementary { name := "Decimal", length := 20 }, owner := .field ⟨0⟩ },
    { form := .elementary { name := "bogus" }, owner := .typedef ⟨0⟩ }]

theorem overlong_wellFormed : overlong.WellFormed where
  drafted := ⟨[.addPackage "p", .addClass (some ⟨0⟩) "c",
    .addField ⟨0⟩ "Amount" (.elementary { name := "Decimal", length := 20 }),
    .addTypedef (some ⟨0⟩) "T", .define ⟨0⟩ (.elementary { name := "bogus" })], _, rfl, rfl⟩
  closed := by decide

end Schema

namespace Run

variable {s : Schema} {r r' : Run}

/-- **Switching the lengths off deletes their findings and nothing else.** Of two runs over a
well-formed schema, one with the rules on lengths and one without, each check of the one reports
what each check of the other does, less the codes of the lengths. -/
theorem check_without_lengths (h : s.WellFormed) (hon : Reached s true r)
    (hoff : Reached s false r') : ∃ on off next next', r.check = some (on, next) ∧
      r'.check = some (off, next') ∧ on.Without lengthCodes off := by
  obtain ⟨findings, failures, next, hfindings, hfailures, hcheck⟩ := hon.exists_report h
  obtain ⟨ofRules, failures', next', hrules, hfailures', hcheck'⟩ := hoff.exists_report h
  obtain rfl := Option.some.inj (hfailures.symm.trans hfailures')
  rw [Schema.wholeReport_eq] at hcheck hcheck'
  refine ⟨_, _, next, next', hcheck, hcheck', ?_⟩
  have herrors : ∀ d ∈ findings ++ Schema.unseen (findings.map (·.failureKey)) failures,
      d.isError := by
    intro d hd
    exact h.isError_of_mem hfindings hfailures (Schema.mem_or_mem_of_mem_unseen hd)
  rw [← Schema.filter_findings hfindings hrules hfailures]
  exact Report.without_ofDiagnostics lengthCodes herrors

theorem check_without_lengths_overlong : Schema.overlong.WellFormed ∧
    lengths Schema.overlong ≠ [] ∧ Reached Schema.overlong true (start Schema.overlong true) ∧
    Reached Schema.overlong false (start Schema.overlong false) ∧
    ∃ on off next next', (start Schema.overlong true).check = some (on, next) ∧
      (start Schema.overlong false).check = some (off, next') ∧ on.Without lengthCodes off := by
  have hon : Reached Schema.overlong true (start Schema.overlong true) := .start .empty
  have hoff : Reached Schema.overlong false (start Schema.overlong false) := .start .empty
  exact ⟨Schema.overlong_wellFormed, by decide, hon, hoff,
    check_without_lengths Schema.overlong_wellFormed hon hoff⟩

end Run

end SchemaTypes
