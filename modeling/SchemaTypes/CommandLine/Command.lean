/-
The commands: what each writes to the two outputs, and with which status it
ends. Files are read through a function, so a command is one itself.

`check` validates a document and says so if it is in order; `resolve` prints
the table of its fields. Both end with status 1 if an error was found.
-/
import SchemaTypes.CommandLine.Options
import SchemaTypes.Diagnostic.Explanation
import SchemaTypes.Document.Load
import SchemaTypes.FieldTable
import SchemaTypes.Run

namespace SchemaTypes.CommandLine

/-- What a command leaves behind. -/
structure Outcome where
  status : Nat := 0
  stdout : String := ""
  stderr : String := ""
deriving DecidableEq, Repr

/-- Why a file has no text. -/
inductive FileFault where
  | notFound
  | permissionDenied
  | notUtf8
  /-- Any other reason, in the system's words. -/
  | other (reason : String)
deriving DecidableEq, Repr

def FileFault.message (path : String) : FileFault → String
  | .notFound => "cannot find file '" ++ path ++ "'"
  | .permissionDenied => "permission denied reading '" ++ path ++ "'"
  | .notUtf8 => "'" ++ path ++ "' contains invalid UTF-8 data"
  | .other reason => "error reading '" ++ path ++ "': " ++ reason

/-- How the text of a file is had. -/
abbrev FileReader := String → Except FileFault String

/-! ## Texts -/

def usage : String :=
  Code.lines [
    "bonc - bonScript type resolution and validation",
    "",
    "Usage: bonc <command> [options]",
    "",
    "Commands:",
    "  check <model.json>     Validate a model and resolve every data type",
    "  resolve <model.json>   Print the resolved descriptor of every field",
    "  explain <code>         Explain an error code (e.g., E2001)",
    "  help                   Show this help message",
    "  version                Show version information",
    "",
    "Options:",
    "  --format=<fmt>         Output format: terminal (default), json",
    "  --color=<mode>         Colors: auto (default), always, never",
    "  --no-length-checks     Skip length and precision checks",
    "",
    "Environment:",
    "  RUST_LOG               Enable tracing, e.g. RUST_LOG=bon_types=debug",
    "",
    "Examples:",
    "  bonc check shop.json",
    "  bonc resolve shop.json --format=json",
    "  bonc explain E1005"]

def versionText : String := "bonc 0.1.0\n"

/-! ## Commands on a document -/

/-- The two commands on a document. -/
inductive Task where
  | check
  | resolve
deriving DecidableEq, Repr

def Task.word : Task → String
  | .check => "check"
  | .resolve => "resolve"

/-- The outcome of a failure before the schema is there. -/
def failed (stderr : String) : Outcome :=
  { status := 1, stderr }

/-- A report as a command writes it: JSON to the first output, lines to the second one, and
no lines if nothing was found. -/
def reported (r : Report) (o : Options) : Outcome :=
  match o.format with
  | .json => { stdout := JsonOutput.output [.all r.diagnostics, .flush] }
  | .terminal =>
    if r.diagnostics.isEmpty then {}
    else
      let calls := [.all r.diagnostics, .totals r.errors r.warnings, .flush]
      { stderr := Terminal.output (o.color.colors false) calls }

/-- The line about a schema in which nothing is wrong. -/
def praise (path : String) (s : Schema) : String :=
  "OK: " ++ path ++ " (" ++ toString s.classes.size ++ " classes, "
    ++ toString s.fields.size ++ " fields)\n"

def checked (path : String) (o : Options) (s : Schema) (r : Report) : Outcome :=
  let shown := reported r o
  if r.isOk then
    match o.format with
    | .terminal => { shown with stdout := shown.stdout ++ praise path s }
    | .json => shown
  else { shown with status := 1 }

def tabled (o : Options) (r : Report) (rows : List FieldRow) : Outcome :=
  let status := if r.isOk then 0 else 1
  match o.format with
  | .terminal => { reported r o with status, stdout := FieldTable.text rows }
  | .json => { status, stdout := (FieldTable.toJson rows).pretty ++ "\n" }

/-- A command on a schema, or nothing if the schema has a handle that dangles. -/
def perform (task : Task) (path : String) (o : Options) (s : Schema) : Option Outcome := do
  let (report, run) ← (Run.start s o.checkLengths).check
  match task with
  | .check => pure (checked path o s report)
  | .resolve =>
    let (fields, _) ← run.resolvedFields
    let rows ← FieldTable.rows s fields
    pure (tabled o report rows)

/-- The status of a command that a dangling handle stops. No schema of a document has one. -/
def stopped : Outcome :=
  { status := 101 }

/-- A command on a document's text. -/
def onText (task : Task) (path : String) (o : Options) (text : String) : Outcome :=
  match Document.loadText text with
  | .error fault => failed ("error: cannot load '" ++ path ++ "': " ++ fault.message ++ "\n")
  | .ok s => (perform task path o s).getD stopped

/-- A command on a document, with the arguments that follow its name. -/
def onDocument (task : Task) (args : List String) (file : FileReader) : Outcome :=
  match parseOptions args with
  | .error fault =>
    failed ("error: " ++ fault.message ++ "\nUsage: bonc " ++ task.word
      ++ " <model.json> [options]\n")
  | .ok (o, path) =>
    match file path with
    | .error fault => failed (fault.message path ++ "\n")
    | .ok text => onText task path o text

/-! ## The command line -/

def explain (args : List String) : Outcome :=
  match args with
  | [] => failed "Usage: bonc explain <ERROR_CODE>\nExample: bonc explain E2001\n"
  | word :: _ =>
    match Code.parse? word with
    | some code => { stdout := code.explanation ++ "\n" }
    | none => failed ("Unknown error code: " ++ word
        ++ "\n\nCodes have the format EXXXX where X is a digit.\nExamples: E1001, E2001, E9001\n")

/-- The file that a command line needs, if it gets so far as to need one. -/
def neededFile? : List String → Option String
  | command :: rest =>
    if command = "check" ∨ command = "resolve" then
      match parseOptions rest with
      | .ok (_, path) => some path
      | .error _ => none
    else none
  | [] => none

/-- The outcome of a command line. -/
def run (args : List String) (file : FileReader) : Outcome :=
  match args with
  | [] => { stdout := usage }
  | command :: rest =>
    match command with
    | "check" => onDocument .check rest file
    | "resolve" => onDocument .resolve rest file
    | "--explain" | "explain" => explain rest
    | "help" | "--help" | "-h" => { stdout := usage }
    | "version" | "--version" | "-V" => { stdout := versionText }
    | _ => { status := 1, stdout := usage, stderr := "Unknown command: " ++ command ++ "\n\n" }

end SchemaTypes.CommandLine
