/-
A run over one schema. It owns the memo: a check fills it, the table of
resolved fields reads it, and the end of the run empties it, so that nothing
leaks into the next run.
-/
import SchemaTypes.Validation.Report

namespace SchemaTypes

structure Run where
  schema : Schema
  memo : Memo
  checkLengths : Bool

/-- What makes two failures the same: code, message and place. -/
structure FailureKey where
  code : Code
  message : String
  span : Option Span
deriving DecidableEq, Repr

def Diagnostic.failureKey (d : Diagnostic) : FailureKey :=
  ⟨d.code, d.message, d.primarySpan?⟩

namespace Run

/-- Starts a run with the memo of a finished one, which is emptied first. -/
def startWith (s : Schema) (m : Memo) (checkLengths : Bool) : Run :=
  ⟨s, m.clear, checkLengths⟩

def start (s : Schema) (checkLengths : Bool) : Run :=
  startWith s .empty checkLengths

/-- The failures of typedefs whose keys have not been seen, each key once. -/
def unseenFailures (s : Schema) :
    Memo → List FailureKey → List TypedefId → Option (List Diagnostic × Memo)
  | m, _, [] => some ([], m)
  | m, seen, t :: rest => do
    let d ← s.typedef? t
    match ← s.resolve m d.dataType with
    | (.ok _, m) => unseenFailures s m seen rest
    | (.error failure, m) =>
      let diagnostic := failure.toDiagnostic
      if diagnostic.failureKey ∈ seen then unseenFailures s m seen rest
      else
        let (more, m) ← unseenFailures s m (diagnostic.failureKey :: seen) rest
        pure (diagnostic :: more, m)

/-- Validates the schema and resolves every typedef, used or not. A typedef's failure that a
field has reported is not reported again. -/
def check (r : Run) : Option (Report × Run) := do
  let (report, m) ← r.schema.validate r.checkLengths r.memo
  let (extra, m) ← unseenFailures r.schema m (report.diagnostics.map (·.failureKey))
    r.schema.typedefIds
  let whole := if extra.isEmpty then report else .ofDiagnostics (report.diagnostics ++ extra)
  pure (whole, { r with memo := m })

/-- The memo after each of several data types was asked for. -/
def resolveAll (s : Schema) : Memo → List DataTypeId → Option Memo
  | m, [] => some m
  | m, id :: rest => do
    let (_, m) ← s.resolve m id
    resolveAll s m rest

/-- Every field with the descriptor of its type, or with nothing if that fails to resolve. -/
def resolvedFields (r : Run) : Option (List (FieldId × Option Descriptor) × Run) := do
  let m ← resolveAll r.schema r.memo (r.schema.fields.toList.map (·.dataType))
  let rows ← r.schema.fieldIds.mapM fun id =>
    (r.schema.field? id).map fun f => (id, m.get? f.dataType)
  pure (rows, { r with memo := m })

/-- Ends the run and hands back its memo, emptied. -/
def finish (r : Run) : Memo :=
  r.memo.clear

end Run

end SchemaTypes
