/-
The exit status of the commands on a document.

It is decided by what is the same for both commands: whether there is a schema,
and whether the report of its check has an error (`status_eq_one_iff`). Options
about the output have a part in neither. A check with fewer rules finds nothing
where one with more found nothing (`Run.isOk_of_fewer`), so that a command which
was in order stays in order without the rules on lengths.
-/
import SchemaTypes.Proofs.CommandOutcome
import SchemaTypes.Proofs.OptionArguments
import SchemaTypes.Proofs.RuleCodes

namespace SchemaTypes

/-- Where a check finds nothing, a check with no more rules finds nothing either. -/
theorem Run.isOk_of_fewer {s : Schema} (h : s.WellFormed) {fewer more : Bool}
    (hfewer : fewer → more) {r r' next next' : Run} {report report' : Report}
    (hr : Reached s fewer r) (hr' : Reached s more r') (hcheck : r.check = some (report, next))
    (hcheck' : r'.check = some (report', next')) (hok : report'.isOk) : report.isOk := by
  obtain ⟨found, failures, _, hfound, hfailures, hreport⟩ := hr.exists_report h
  obtain ⟨found', failures', _, hfound', hfailures', hreport'⟩ := hr'.exists_report h
  obtain rfl := (Prod.mk.inj (Option.some.inj (hcheck.symm.trans hreport))).1
  obtain rfl := (Prod.mk.inj (Option.some.inj (hcheck'.symm.trans hreport'))).1
  obtain rfl := Option.some.inj (hfailures.symm.trans hfailures')
  rw [h.wholeReport_isOk_iff hfound' hfailures] at hok
  rw [h.wholeReport_isOk_iff hfound hfailures]
  refine ⟨?_, hok.2⟩
  cases fewer with
  | true =>
    rw [hfewer rfl, hfound] at hfound'
    exact (Option.some.inj hfound').trans hok.1
  | false =>
    cases more with
    | false => exact (Option.some.inj (hfound.symm.trans hfound')).trans hok.1
    | true =>
      -- The findings of the rules on lengths stand behind those of all the others.
      rw [Schema.freshFindings_eq, hfound, Option.map_some, Option.some.injEq, hok.1] at hfound'
      exact (List.append_eq_nil_iff.1 hfound').1

namespace CommandLine

/-- What makes a command on a document fail: there is no schema, or a check of it with the given
options reports an error. -/
inductive Fails (args : List String) (file : FileReader) : Prop
  | unloaded (h : Unloaded args file)
  | errors {o : Options} {path : String} {s : Schema} {report : Report} {d : Diagnostic}
    (h : Checked args file o path s report) (hd : d ∈ report.diagnostics) (herror : d.isError)

variable {args : List String} {file : FileReader} {o : Options} {path : String} {s : Schema}
  {report : Report}

theorem Checked.fails_iff (h : Checked args file o path s report) :
    Fails args file ↔ ¬report.isOk := by
  constructor
  · intro hfails hok
    cases hfails with
    | unloaded hunloaded => exact h.not_unloaded hunloaded
    | errors h' hd herror =>
      obtain ⟨-, -, -, rfl⟩ := h.unique h'
      exact h.isOk_iff.1 hok _ hd herror
  · intro hok
    obtain ⟨d, hd, herror⟩ := h.exists_isError hok
    exact .errors h hd herror

theorem status_eq (task : Task) (args : List String) (file : FileReader) :
    (Fails args file ∧ (run (task.word :: args) file).status = 1) ∨
      (¬Fails args file ∧ (run (task.word :: args) file).status = 0) := by
  rw [run_task]
  rcases onDocument_cases task args file with ⟨hunloaded, complaint, -, hout⟩ |
    ⟨o, path, s, report, hchecked, hwritten⟩
  · exact .inl ⟨.unloaded hunloaded, by rw [hout]; rfl⟩
  · rw [hchecked.fails_iff, hwritten.status]
    by_cases hok : report.isOk = true <;> simp [hok]

theorem status_eq_one_iff (task : Task) (args : List String) (file : FileReader) :
    (run (task.word :: args) file).status = 1 ↔ Fails args file := by
  rcases status_eq task args file with ⟨hfails, hstatus⟩ | ⟨hfails, hstatus⟩ <;>
    simp [hfails, hstatus]

theorem status_eq_zero_iff (task : Task) (args : List String) (file : FileReader) :
    (run (task.word :: args) file).status = 0 ↔ ¬Fails args file := by
  rcases status_eq task args file with ⟨hfails, hstatus⟩ | ⟨hfails, hstatus⟩ <;>
    simp [hfails, hstatus]

/-- Where one command fails only if another does, its status is no higher. -/
theorem status_le {task task' : Task} {args' : List String}
    (h : Fails args file → Fails args' file) :
    (run (task.word :: args) file).status ≤ (run (task'.word :: args') file).status := by
  rcases status_eq task args file with ⟨hfails, hstatus⟩ | ⟨-, hstatus⟩
  · rw [hstatus, (status_eq_one_iff task' args' file).2 (h hfails)]
  · rw [hstatus]
    exact Nat.zero_le _

theorem status_of_task (task task' : Task) (args : List String) (file : FileReader) :
    (run (task.word :: args) file).status = (run (task'.word :: args) file).status :=
  Nat.le_antisymm (status_le id) (status_le id)

/-! ## Other options -/

/-- A command that fails also fails with other options, if these differ in the output and ask no
fewer rules. -/
theorem Fails.of_related {R : Options → Options → Prop}
    (hR : ∀ {o o'}, R o o' → o.checkLengths → o'.checkLengths) {args' : List String}
    (h : Related R (parseOptions args) (parseOptions args')) (hfails : Fails args file) :
    Fails args' file := by
  cases hfails with
  | unloaded hunloaded =>
    refine .unloaded ?_
    cases hunloaded with
    | options hoptions => exact .options (h.of_error hoptions)
    | file hoptions hfile =>
      obtain ⟨o', hoptions', -⟩ := h.of_ok hoptions
      exact .file hoptions' hfile
    | document hoptions hfile hload =>
      obtain ⟨o', hoptions', -⟩ := h.of_ok hoptions
      exact .document hoptions' hfile hload
  | @errors o path s report d hchecked hd herror =>
    obtain ⟨o', hoptions', ho⟩ := h.of_ok hchecked.options
    have hr' : Run.Reached s o'.checkLengths (.start s o'.checkLengths) := .start .empty
    obtain ⟨found, failures, next', -, -, hcheck'⟩ := hr'.exists_report hchecked.wellFormed
    have hchecked' : Checked args' file o' path s _ := ⟨hoptions', hchecked.load, next', hcheck'⟩
    obtain ⟨next, hcheck⟩ := hchecked.check
    rw [hchecked'.fails_iff]
    intro hok
    have hok' : report.isOk :=
      Run.isOk_of_fewer hchecked.wellFormed (hR ho) (.start .empty) hr' hcheck hcheck' hok
    exact hchecked.isOk_iff.1 hok' d hd herror

theorem fails_insert_output {a : String} (ha : isOutputOption a) (before after : List String)
    (file : FileReader) : Fails (before ++ a :: after) file ↔ Fails (before ++ after) file := by
  have h := parseOptions_insert_output ha before after
  constructor
  · exact fun hfails => hfails.of_related (fun ho hlengths => (Eq.symm ho).trans hlengths) h
  · exact fun hfails => hfails.of_related (fun ho hlengths => Eq.trans ho hlengths) h.symm

/-- The options about the output leave it as it is whether a command fails. -/
theorem fails_filter_output (args : List String) (file : FileReader) :
    Fails (args.filter (!isOutputOption ·)) file ↔ Fails args file := by
  have hfilter : ∀ before : List String,
      Fails (before ++ args.filter (!isOutputOption ·)) file ↔ Fails (before ++ args) file := by
    induction args with
    | nil => exact fun before => Iff.rfl
    | cons a args ih =>
      intro before
      by_cases ha : isOutputOption a = true
      · rw [List.filter_cons_of_neg (by simp [ha]), ih, fails_insert_output ha]
      · rw [List.filter_cons_of_pos (by simp [ha])]
        simpa using ih (before ++ [a])
  exact hfilter []

theorem Fails.of_insert_noLengthChecks {before after : List String}
    (h : Fails (before ++ noLengthChecks :: after) file) : Fails (before ++ after) file :=
  h.of_related (fun ho hlengths => by simp [ho.checkLengths] at hlengths)
    (parseOptions_insert_noLengthChecks before after)

/-! ## The status -/

/-- A document in which nothing but a length is wrong. -/
def overlongText : String :=
  "\x7b\"packages\":[\x7b\"name\":\"p\",\"typedefs\":[\x7b\"name\":\"T\","
    ++ "\"type\":\x7b\"elementary\":\x7b\"name\":\"Decimal\",\"length\":20\x7d\x7d\x7d]\x7d]\x7d"

/-- **The exit status tells whether there is an error**, and nothing else. It is 1 if there is no
schema or its check reports an error, and 0 otherwise. So both commands have the same, the options
about the output have no part in it, and without the rules on lengths it may become 0 but never
1. -/
theorem run_status :
    (∀ (task : Task) (args : List String) (file : FileReader),
      ((run (task.word :: args) file).status = 1 ↔ Fails args file) ∧
      ((run (task.word :: args) file).status = 0 ↔ ¬Fails args file) ∧
      (∀ task' : Task, (run (task.word :: args) file).status =
        (run (task'.word :: args) file).status) ∧
      (run (task.word :: args.filter (!isOutputOption ·)) file).status =
        (run (task.word :: args) file).status) ∧
    (∀ (task : Task) (before after : List String) (file : FileReader),
      (run (task.word :: (before ++ noLengthChecks :: after)) file).status ≤
        (run (task.word :: (before ++ after)) file).status) ∧
    ∀ task : Task, ∃ args file, (parseOptions args).isOk ∧
      (run (task.word :: args) file).status = 1 ∧
      (run (task.word :: noLengthChecks :: args) file).status = 0 := by
  refine ⟨fun task args file => ⟨status_eq_one_iff task args file,
    status_eq_zero_iff task args file, fun task' => status_of_task task task' args file, ?_⟩,
    fun task before after file => ?_,
    fun task => ⟨["m.json"], fun _ => .ok overlongText, ?_, ?_, ?_⟩⟩
  · have h := fails_filter_output args file
    exact Nat.le_antisymm (status_le h.1) (status_le h.2)
  · exact status_le Fails.of_insert_noLengthChecks
  · decide
  · rw [status_of_task task .check]
    decide +kernel
  · rw [status_of_task task .check]
    decide +kernel

end CommandLine

end SchemaTypes
