/-
How a command on a document ends.

It gives up before there is a schema (`Unloaded`), with a complaint on the
second output, or there is a report of the schema (`Checked`) and the command
writes what it has to write about it (`Written`). One of the two happens, and
never both. A loaded schema is well-formed, so no command is stopped by a
dangling handle, and the status is that of the report.
-/
import SchemaTypes.CommandLine.Command
import SchemaTypes.Proofs.FreshTable
import SchemaTypes.Proofs.LoadedSchema
import SchemaTypes.Proofs.Verdict

namespace SchemaTypes.CommandLine

/-! ## Before there is a report -/

/-- There is no schema: the arguments are refused, or the file cannot be read, or its text is no
document that can be loaded. -/
inductive Unloaded (args : List String) (file : FileReader) : Prop
  | options {fault : OptionFault} (hoptions : parseOptions args = .error fault)
  | file {o : Options} {path : String} {fault : FileFault}
    (hoptions : parseOptions args = .ok (o, path)) (hfile : file path = .error fault)
  | document {o : Options} {path text : String} {fault : Document.LoadFault}
    (hoptions : parseOptions args = .ok (o, path)) (hfile : file path = .ok text)
    (hload : Document.loadText text = .error fault)

/-- The arguments are accepted with the options `o`, the schema `s` is loaded from the file, and
a check with these options gives the report. -/
structure Checked (args : List String) (file : FileReader) (o : Options) (path : String)
    (s : Schema) (report : Report) : Prop where
  options : parseOptions args = .ok (o, path)
  load : ∃ text, file path = .ok text ∧ Document.loadText text = .ok s
  check : ∃ next, (Run.start s o.checkLengths).check = some (report, next)

variable {args : List String} {file : FileReader} {o o' : Options} {path path' : String}
  {s s' : Schema} {report report' : Report} {task : Task} {out : Outcome}

theorem Checked.wellFormed (h : Checked args file o path s report) : s.WellFormed := by
  obtain ⟨text, -, hload⟩ := h.load
  exact Document.wellFormed_of_loadText hload

theorem Checked.isOk_iff (h : Checked args file o path s report) :
    report.isOk ↔ ∀ d ∈ report.diagnostics, ¬d.isError := by
  obtain ⟨next, hcheck⟩ := h.check
  exact Run.Reached.isOk_iff h.wellFormed (.start .empty) hcheck

theorem Checked.exists_isError (h : Checked args file o path s report) (hok : ¬report.isOk) :
    ∃ d ∈ report.diagnostics, d.isError := by
  simpa [h.isOk_iff] using hok

theorem Checked.unique (h : Checked args file o path s report)
    (h' : Checked args file o' path' s' report') :
    o = o' ∧ path = path' ∧ s = s' ∧ report = report' := by
  obtain ⟨hoptions, ⟨text, hfile, hload⟩, next, hcheck⟩ := h
  obtain ⟨hoptions', ⟨text', hfile', hload'⟩, next', hcheck'⟩ := h'
  obtain ⟨rfl, rfl⟩ := Prod.mk.inj (Except.ok.inj (hoptions.symm.trans hoptions'))
  obtain rfl := Except.ok.inj (hfile.symm.trans hfile')
  obtain rfl := Except.ok.inj (hload.symm.trans hload')
  exact ⟨rfl, rfl, rfl, (Prod.mk.inj (Option.some.inj (hcheck.symm.trans hcheck'))).1⟩

theorem Checked.not_unloaded (h : Checked args file o path s report) : ¬Unloaded args file := by
  obtain ⟨hoptions, ⟨text, hfile, hload⟩, -⟩ := h
  intro hunloaded
  cases hunloaded with
  | options hoptions' => simp [hoptions] at hoptions'
  | file hoptions' hfile' =>
    obtain ⟨rfl, rfl⟩ := Prod.mk.inj (Except.ok.inj (hoptions.symm.trans hoptions'))
    simp [hfile] at hfile'
  | document hoptions' hfile' hload' =>
    obtain ⟨rfl, rfl⟩ := Prod.mk.inj (Except.ok.inj (hoptions.symm.trans hoptions'))
    obtain rfl := Except.ok.inj (hfile.symm.trans hfile')
    simp [hload] at hload'

/-! ## What is written about a report -/

/-- What a command writes about a schema and the report of its check. -/
inductive Written (path : String) (o : Options) (s : Schema) (report : Report) :
    Task → Outcome → Prop
  | check : Written path o s report .check (checked path o s report)
  /-- The rows are those of the fields of the schema. -/
  | resolve {entries : List (FieldId × Option Descriptor)} {rows : List FieldRow}
    (hentries : s.freshTable = some entries) (hrows : FieldTable.rows s entries = some rows) :
    Written path o s report .resolve (tabled o report rows)

theorem reported_status (report : Report) (o : Options) : (reported report o).status = 0 := by
  unfold reported
  split
  · rfl
  · split <;> rfl

theorem Written.status (h : Written path o s report task out) :
    out.status = if report.isOk then 0 else 1 := by
  cases h with
  | check =>
    unfold checked
    by_cases hok : report.isOk = true
    · simp only [hok, if_true]
      split <;> exact reported_status report o
    · simp [hok]
  | resolve hentries hrows =>
    unfold tabled
    dsimp only
    split <;> rfl

/-- Both commands come to an end on a well-formed schema. -/
theorem exists_written (h : s.WellFormed) (task : Task) (path : String) (o : Options) :
    ∃ report next out, (Run.start s o.checkLengths).check = some (report, next) ∧
      perform task path o s = some out ∧ Written path o s report task out := by
  have hstart : Run.Reached s o.checkLengths (.start s o.checkLengths) := .start .empty
  obtain ⟨findings, failures, next, -, -, hcheck⟩ := hstart.exists_report h
  cases task with
  | check => exact ⟨_, next, _, hcheck, by simp [perform, hcheck], .check⟩
  | resolve =>
    obtain ⟨last, hfields⟩ := (hstart.check hcheck).resolvedFields_eq h.closed
    obtain ⟨entries, rows, hentries, hrows⟩ := h.closed.exists_table
    exact ⟨_, next, _, hcheck, by simp [perform, hcheck, hfields, hentries, hrows],
      .resolve hentries hrows⟩

/-! ## The two ways to end -/

theorem run_task (task : Task) (args : List String) (file : FileReader) :
    run (task.word :: args) file = onDocument task args file := by
  cases task <;> rfl

/-- A command gives up with a complaint, or it writes about the report of a check. -/
theorem onDocument_cases (task : Task) (args : List String) (file : FileReader) :
    (Unloaded args file ∧ ∃ complaint, complaint ≠ "" ∧
        onDocument task args file = failed complaint) ∨
      ∃ o path s report, Checked args file o path s report ∧
        Written path o s report task (onDocument task args file) := by
  unfold onDocument
  cases hoptions : parseOptions args with
  | error fault => exact .inl ⟨.options hoptions, _, by simp, rfl⟩
  | ok x =>
    obtain ⟨o, path⟩ := x
    dsimp only
    cases hfile : file path with
    | error fault => exact .inl ⟨.file hoptions hfile, _, by simp, rfl⟩
    | ok text =>
      dsimp only
      unfold onText
      cases hload : Document.loadText text with
      | error fault => exact .inl ⟨.document hoptions hfile hload, _, by simp, rfl⟩
      | ok s =>
        obtain ⟨report, next, out, hcheck, hperform, hwritten⟩ :=
          exists_written (Document.wellFormed_of_loadText hload) task path o
        refine .inr ⟨o, path, s, report, ⟨hoptions, ⟨text, hfile, hload⟩, next, hcheck⟩, ?_⟩
        dsimp only
        rw [hperform, Option.getD_some]
        exact hwritten

theorem Checked.written (h : Checked args file o path s report) (task : Task) :
    Written path o s report task (run (task.word :: args) file) := by
  rw [run_task]
  rcases onDocument_cases task args file with ⟨hunloaded, -⟩ |
    ⟨o', path', s', report', hchecked, hwritten⟩
  · exact absurd hunloaded h.not_unloaded
  · obtain ⟨rfl, rfl, rfl, rfl⟩ := h.unique hchecked
    exact hwritten

theorem failure_cases (hstatus : (run (task.word :: args) file).status = 1) :
    (Unloaded args file ∧ (run (task.word :: args) file).stderr ≠ "") ∨
      ∃ o path s report, Checked args file o path s report ∧ ∃ d ∈ report.diagnostics, d.isError := by
  rw [run_task] at hstatus ⊢
  rcases onDocument_cases task args file with ⟨hunloaded, complaint, hne, hout⟩ |
    ⟨o, path, s, report, hchecked, hwritten⟩
  · rw [hout]
    exact .inl ⟨hunloaded, hne⟩
  · refine .inr ⟨o, path, s, report, hchecked, hchecked.exists_isError fun hok => ?_⟩
    rw [hwritten.status, if_pos hok] at hstatus
    cases hstatus

end SchemaTypes.CommandLine
