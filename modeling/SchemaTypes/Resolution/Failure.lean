/-
Why a data type has no descriptor. A failure names the type or typedef at
fault and the place of its declaration, and turns into a diagnostic there.
-/
import SchemaTypes.Diagnostic.Basic

namespace SchemaTypes

inductive FailureCause where
  /-- A chain of typedefs leads back to one that is still being resolved. -/
  | recursiveTypedef
  /-- The type name is none of the elementary types. -/
  | unmappedType
  /-- No package is around the data type. -/
  | missingPackage
  /-- An `enum` that names no enumeration. -/
  | missingEnum
deriving DecidableEq, Repr

structure Failure where
  cause : FailureCause
  /-- The qualified typedef, or the type name as declared. -/
  name : String
  span : Span
deriving DecidableEq, Repr

def FailureCause.code : FailureCause → Code
  | .recursiveTypedef => .recursiveTypedef
  | .unmappedType => .unmappedType
  | .missingPackage => .missingPackage
  | .missingEnum => .missingEnum

namespace Failure

def message (f : Failure) : String :=
  match f.cause with
  | .recursiveTypedef => "recursive typedefs around `" ++ f.name ++ "`"
  | .unmappedType => "unmapped data type `" ++ f.name ++ "`"
  | .missingPackage => "no enclosing package found for `" ++ f.name ++ "`"
  | .missingEnum => "enum data type `" ++ f.name ++ "` does not reference an enumeration"

/-- What the label at the failing declaration says. -/
def labelText (f : Failure) : String :=
  match f.cause with
  | .recursiveTypedef => "`" ++ f.name ++ "` is reached again while resolving it"
  | .unmappedType => "`" ++ f.name ++ "` is not an elementary type"
  | .missingPackage => "declared outside of any package"
  | .missingEnum => "enumeration expected here"

def notes (f : Failure) : List String :=
  match f.cause with
  | .missingPackage => ["this is a malformed model, not a schema error"]
  | _ => []

def suggestions (f : Failure) : List Suggestion :=
  match f.cause with
  | .recursiveTypedef =>
    [{ message := "let one typedef in the chain alias an elementary type or a class" }]
  | .unmappedType => [{ message := "use a listed elementary type (`bonc explain E2002`)" }]
  | .missingPackage => []
  | .missingEnum => [{ message := "name the enumeration, e.g. `enum OrderStatus`" }]

def toDiagnostic (f : Failure) : Diagnostic where
  code := f.cause.code
  message := f.message
  labels := [⟨f.span, f.labelText, true⟩]
  notes := f.notes
  suggestions := f.suggestions

end Failure

end SchemaTypes
