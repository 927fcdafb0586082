/-
Diagnostics: what is wrong with a schema, and where. The first primary label
names the declaration at fault; secondary labels name related ones, such as
the final class that is extended or the inherited field that is shadowed.
-/
import SchemaTypes.Diagnostic.Code
import SchemaTypes.Span

namespace SchemaTypes

inductive Severity where
  | error
  | warning
  | note
deriving DecidableEq, Repr

def Severity.text : Severity → String
  | .error => "error"
  | .warning => "warning"
  | .note => "note"

/-- A declaration to which a diagnostic points. -/
structure Label where
  span : Span
  message : String
  /-- Whether the declaration is at fault, not only related. -/
  isPrimary : Bool
deriving DecidableEq, Repr

/-- A hint for a fix. -/
structure Suggestion where
  message : String
  /-- The identifier to put in the place of the declared one. -/
  replacement : Option String := none
deriving DecidableEq, Repr

structure Diagnostic where
  code : Code
  severity : Severity := .error
  message : String := ""
  labels : List Label := []
  notes : List String := []
  suggestions : List Suggestion := []
deriving DecidableEq, Repr

namespace Diagnostic

/-- The place of the first primary label. Diagnostics are ordered by it. -/
def primarySpan? (d : Diagnostic) : Option Span :=
  (d.labels.find? (·.isPrimary)).map (·.span)

def isError (d : Diagnostic) : Bool :=
  d.severity == .error

/-- The diagnostic with one more label. -/
def addLabel (d : Diagnostic) (l : Label) : Diagnostic :=
  { d with labels := d.labels ++ [l] }

/-- The diagnostic as one block of plain text, for logs. -/
def summary (d : Diagnostic) : String :=
  let label (l : Label) :=
    "\n  " ++ (if l.isPrimary then "-->" else "   ") ++ " " ++ l.span.text ++ ": " ++ l.message
  d.severity.text ++ " [" ++ d.code.text ++ "]: " ++ d.message
    ++ String.join (d.labels.map label)
    ++ String.join (d.notes.map fun note => "\n  = note: " ++ note)
    ++ String.join (d.suggestions.map fun hint => "\n  = help: " ++ hint.message)

end Diagnostic

/-- What a count of errors tells, if there is any: the words of a proof of failure. -/
def failureNotice? (errors : Nat) : Option String :=
  if errors = 0 then none else some "error(s) emitted"

end SchemaTypes
