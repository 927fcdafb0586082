/-
Which failures are explained.

A command that gives up before there is a schema complains. A command that has
a report writes all of its diagnostics, as lines to the second output or as JSON
to the first one, with one exception: a table that is printed as JSON is printed
alone, and it holds none of them. So a failure is explained unless it is of that
kind (`explained_iff`).
-/
import SchemaTypes.Proofs.CommandOutcome
import SchemaTypes.Proofs.ShownDiagnostics

namespace SchemaTypes.CommandLine

/-- A diagnostic is written: as lines, with or without colors, to the second output, or as an
item of a JSON list to the first one. -/
def Outcome.Shows (out : Outcome) (d : Diagnostic) : Prop :=
  (∃ colored, (Terminal.output colored [.one d]).toList <:+: out.stderr.toList) ∨
    Json.layout 1 d.toJson <:+: out.stdout.toList

/-- There is something on the second output, or every error of the report is written. -/
def Explained (args : List String) (file : FileReader) (out : Outcome) : Prop :=
  out.stderr ≠ "" ∨ ∃ o path s report, Checked args file o path s report ∧
    ∀ d ∈ report.diagnostics, d.isError → out.Shows d

/-- A command that prints the table of a document as JSON. -/
def TableOnly (task : Task) (args : List String) (file : FileReader) : Prop :=
  task = .resolve ∧ ∃ o path s report, Checked args file o path s report ∧ o.format = .json

/-! ## What is written is shown -/

variable {args : List String} {file : FileReader} {o : Options} {path : String} {s : Schema}
  {report : Report} {task : Task} {out out' : Outcome} {d : Diagnostic}

theorem Outcome.Shows.mono (h : out.Shows d) (hstdout : out.stdout.toList <:+: out'.stdout.toList)
    (hstderr : out.stderr.toList <:+: out'.stderr.toList) : out'.Shows d :=
  h.imp (fun ⟨colored, hlines⟩ => ⟨colored, hlines.trans hstderr⟩) (·.trans hstdout)

theorem shows_reported (hd : d ∈ report.diagnostics) (o : Options) : (reported report o).Shows d := by
  unfold reported
  cases o.format with
  | json => exact .inr (JsonOutput.infix_output hd)
  | terminal =>
    have hne : report.diagnostics.isEmpty = false := by
      rw [List.isEmpty_eq_false_iff_exists_mem]
      exact ⟨d, hd⟩
    simp only [hne]
    exact .inl ⟨_, Terminal.infix_output hd _ _ _⟩

theorem checked_stderr (path : String) (o : Options) (s : Schema) (report : Report) :
    (checked path o s report).stderr = (reported report o).stderr := by
  unfold checked
  by_cases hok : report.isOk = true
  · cases hformat : o.format <;> simp [hok]
  · simp [hok]

/-- There may be a line behind what is reported. -/
theorem checked_stdout (path : String) (o : Options) (s : Schema) (report : Report) :
    (reported report o).stdout.toList <+: (checked path o s report).stdout.toList := by
  unfold checked
  by_cases hok : report.isOk = true
  · cases hformat : o.format <;> simp [hok]
  · simp [hok]

/-- Both commands write every diagnostic, but for a table as JSON. -/
theorem Written.shows (h : Written path o s report task out)
    (htask : ¬(task = .resolve ∧ o.format = .json)) (hd : d ∈ report.diagnostics) :
    out.Shows d := by
  have hreported := shows_reported hd o
  cases h with
  | check =>
    refine hreported.mono (checked_stdout path o s report).isInfix ?_
    rw [checked_stderr]
  | resolve hentries hrows =>
    cases hformat : o.format with
    | json => exact absurd ⟨rfl, hformat⟩ htask
    | terminal =>
      unfold reported at hreported
      unfold tabled reported
      simp only [hformat] at hreported ⊢
      refine hreported.mono ?_ (List.infix_refl _)
      split <;> exact List.nil_infix

/-- The table of the fields of a schema as JSON, and nothing else. -/
def Outcome.IsTable (out : Outcome) (s : Schema) : Prop :=
  out.stderr = "" ∧ ∃ entries rows, s.freshTable = some entries ∧
    FieldTable.rows s entries = some rows ∧ out.stdout = (FieldTable.toJson rows).pretty ++ "\n"

theorem Written.isTable (h : Written path o s report .resolve out) (hformat : o.format = .json) :
    out.IsTable s := by
  cases h with
  | @resolve entries rows hentries hrows =>
    unfold tabled
    simp only [hformat]
    exact ⟨rfl, entries, rows, hentries, hrows, rfl⟩

theorem Outcome.IsTable.not_shows (h : out.IsTable s) (d : Diagnostic) : ¬out.Shows d := by
  obtain ⟨hstderr, entries, rows, -, -, hstdout⟩ := h
  unfold Outcome.Shows
  rw [hstderr, hstdout]
  rintro (⟨colored, hlines⟩ | hitem)
  · exact absurd (hlines.mem (Terminal.newline_mem_output colored d)) (by decide)
  · exact FieldTable.not_infix rows d hitem

/-! ## What is explained -/

/-- With a report there are two cases: the table is printed as JSON, or every diagnostic is
written. -/
theorem shows_iff (h : Checked args file o path s report) (hd : d ∈ report.diagnostics) :
    (run (task.word :: args) file).Shows d ↔ ¬(task = .resolve ∧ o.format = .json) := by
  have hwritten := h.written task
  refine ⟨fun hshows htable => ?_, fun htable => hwritten.shows htable hd⟩
  obtain ⟨rfl, hformat⟩ := htable
  exact (hwritten.isTable hformat).not_shows d hshows

theorem explained_iff (hstatus : (run (task.word :: args) file).status = 1) :
    Explained args file (run (task.word :: args) file) ↔ ¬TableOnly task args file := by
  rcases failure_cases hstatus with ⟨hunloaded, hne⟩ | ⟨o, path, s, report, hchecked, d, hd, herror⟩
  · have hnot : ¬TableOnly task args file := fun ⟨_, _, _, _, _, hchecked, _⟩ =>
      hchecked.not_unloaded hunloaded
    exact iff_of_true (.inl hne) hnot
  · constructor
    · intro hexplained htable
      obtain ⟨rfl, o', path', s', report', hchecked', hformat⟩ := htable
      obtain ⟨rfl, rfl, rfl, rfl⟩ := hchecked.unique hchecked'
      rcases hexplained with hne | ⟨o', path', s', report', hchecked', hshows⟩
      · exact hne ((hchecked.written .resolve).isTable hformat).1
      · obtain ⟨rfl, rfl, rfl, rfl⟩ := hchecked.unique hchecked'
        exact (shows_iff hchecked hd).1 (hshows d hd herror) ⟨rfl, hformat⟩
    · intro hnot
      refine .inr ⟨o, path, s, report, hchecked, fun d hd _ => (shows_iff hchecked hd).2 ?_⟩
      exact fun htable => hnot ⟨htable.1, o, path, s, report, hchecked, htable.2⟩

/-- A failure without a complaint is of a document with an error. Printed as JSON, the table of it
tells of none of its errors. -/
theorem unexplained_of_table (hrun : run (Task.resolve.word :: args) file = out)
    (hstatus : out.status = 1) (hstderr : out.stderr = "")
    (hoptions : parseOptions args = .ok (o, path)) (hformat : o.format = .json) :
    ¬Explained args file out ∧ ∃ o path s report, Checked args file o path s report ∧
      ∃ d ∈ report.diagnostics, d.isError ∧ ¬out.Shows d := by
  subst hrun
  rcases failure_cases hstatus with ⟨-, hne⟩ | ⟨o', path', s, report, hchecked, d, hd, herror⟩
  · exact absurd hstderr hne
  · obtain ⟨rfl, rfl⟩ := Prod.mk.inj (Except.ok.inj (hoptions.symm.trans hchecked.options))
    have htable : TableOnly .resolve args file := ⟨rfl, o, path, s, report, hchecked, hformat⟩
    refine ⟨fun hexplained => (explained_iff hstatus).1 hexplained htable,
      o, path, s, report, hchecked, d, hd, herror, fun hshows => ?_⟩
    exact (shows_iff hchecked hd).1 hshows ⟨rfl, hformat⟩

/-- **A command explains its failure unless it prints a table as JSON.** With any arguments and
any file, the diagnostics of a report are written by both commands and in both formats but for
that one case, in which the table is all that is written; and a failure leaves a complaint or all
of its errors exactly if it is not of that case. -/
theorem run_explains_iff (task : Task) (args : List String) (file : FileReader) :
    (∀ o path s report, Checked args file o path s report →
      (∀ d ∈ report.diagnostics, (run (task.word :: args) file).Shows d ↔
        ¬(task = .resolve ∧ o.format = .json)) ∧
      (task = .resolve ∧ o.format = .json → (run (task.word :: args) file).IsTable s)) ∧
    ((run (task.word :: args) file).status = 1 →
      (Explained args file (run (task.word :: args) file) ↔ ¬TableOnly task args file)) := by
  refine ⟨fun o path s report hchecked => ⟨fun d hd => shows_iff hchecked hd, ?_⟩, explained_iff⟩
  intro htable
  obtain ⟨rfl, hformat⟩ := htable
  exact (hchecked.written .resolve).isTable hformat

/-- A document in which the name of a class begins with a small letter. -/
def smallLetterText : String :=
  "\x7b\"packages\":[\x7b\"name\":\"p\",\"classes\":[\x7b\"name\":\"c\"\x7d]\x7d]\x7d"

/-- The table of a document without fields is all that is written about it, though its check
reports an error. -/
theorem run_unexplained :
    let args := ["m.json", "--format=json"]
    let file : FileReader := fun _ => .ok smallLetterText
    let out : Outcome := { status := 1, stdout := "[]\n", stderr := "" }
    run ("resolve" :: args) file = out ∧ ¬Explained args file out ∧
      ∃ o path s report, Checked args file o path s report ∧
        ∃ d ∈ report.diagnostics, d.isError ∧ ¬out.Shows d := by
  intro args file out
  have hrun : run ("resolve" :: args) file = out := by decide +kernel
  have hoptions : parseOptions args = .ok ({ format := .json }, "m.json") := by decide
  exact ⟨hrun, unexplained_of_table hrun rfl rfl hoptions rfl⟩

end SchemaTypes.CommandLine
