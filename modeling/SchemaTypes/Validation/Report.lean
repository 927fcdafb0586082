/-
The validation of a whole schema. It never stops early: every rule is asked of
every declaration, and all that is found is put in the order of the places.

`findings` is the order of reporting: the classes, then field by field the
rules on its name, its twins, its ancestors, its marker and its type, then the
lengths. The types of the fields are resolved through a memo, which is handed
on.
-/
import SchemaTypes.Diagnostic.Queue
import SchemaTypes.Resolution.Resolve
import SchemaTypes.Validation.Inheritance
import SchemaTypes.Validation.Length
import SchemaTypes.Validation.Marker
import SchemaTypes.Validation.Naming

namespace SchemaTypes

/-- What a validation found. -/
structure Report where
  /-- In the order of their places. -/
  diagnostics : List Diagnostic
  errors : Nat
  warnings : Nat
deriving DecidableEq, Repr

namespace Report

/-- Whether no error was found. -/
def isOk (r : Report) : Bool :=
  r.errors == 0

def failure? (r : Report) : Option String :=
  failureNotice? r.errors

/-- The report of diagnostics in the order in which they came. -/
def ofDiagnostics (ds : List Diagnostic) : Report :=
  let q := ({ config := .unlimited } : Queue).offerAll ds
  { diagnostics := q.flush.1, errors := q.errors, warnings := q.warnings }

end Report

namespace Validation

def classFindings (s : Schema) (id : ClassId) : Option (List Diagnostic) := do
  let c ← s.class? id
  let parent ← finalParent s c
  pure (classNaming c ++ parent)

/-- What the rules say of a field that leave its type aside. -/
def fieldShape (s : Schema) (id : FieldId) (f : FieldDecl) : Option (List Diagnostic) := do
  let twins ← duplicateName s id f
  let ancestors ← shadowing s id f
  let marker ← fieldMarker s f
  pure (fieldNaming f ++ twins ++ ancestors ++ marker)

/-- A failure to resolve, reported for the field that needed the type. -/
def typeFinding (f : FieldDecl) (failure : Failure) : Diagnostic :=
  failure.toDiagnostic.addLabel ⟨f.span, "type of field `" ++ f.name ++ "`", false⟩

def fieldFindings (s : Schema) (m : Memo) (id : FieldId) :
    Option (List Diagnostic × Memo) := do
  let f ← s.field? id
  let shape ← fieldShape s id f
  match ← s.resolve m f.dataType with
  | (.ok _, m) => pure (shape, m)
  | (.error failure, m) => pure (shape ++ [typeFinding f failure], m)

/-- The findings of several fields, one after the other. -/
def fieldsFindings (s : Schema) : Memo → List FieldId → Option (List Diagnostic × Memo)
  | m, [] => some ([], m)
  | m, id :: rest => do
    let (found, m) ← fieldFindings s m id
    let (more, m) ← fieldsFindings s m rest
    pure (found ++ more, m)

/-- Everything that the rules find, in the order of reporting. -/
def findings (s : Schema) (checkLengths : Bool) (m : Memo) :
    Option (List Diagnostic × Memo) := do
  let classes ← s.classIds.mapM (classFindings s)
  let (fields, m) ← fieldsFindings s m s.fieldIds
  pure (classes.flatten ++ fields ++ (if checkLengths then lengths s else []), m)

end Validation

/-- The report of a schema's validation. -/
def Schema.validate (s : Schema) (checkLengths : Bool) (m : Memo) : Option (Report × Memo) :=
  (Validation.findings s checkLengths m).map fun (ds, m) => (.ofDiagnostics ds, m)

end SchemaTypes
