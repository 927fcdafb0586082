/-
The stable codes of the diagnostics. The first digit of a code tells the stage
that reports it: structure, type resolution, or a schema that breaks what
every reader of schemas must already guarantee.
-/
import SchemaTypes.Text.Ascii

namespace SchemaTypes

inductive Code where
  | classNameCase
  | finalExtended
  | fieldNameCase
  | duplicateField
  | shadowedField
  | markerOnTypedef
  | optionalPrimitive
  | timestampDigits
  | numberDigits
  | decimalDigits
  | decimalScale
  | fieldSize
  | recursiveTypedef
  | unmappedType
  | missingEnum
  | missingPackage
deriving DecidableEq, Repr

/-- The stage of the work that reports a code. -/
inductive Stage where
  | structural
  | resolution
  | internal
deriving DecidableEq, Repr

namespace Code

/-- Every code, in ascending order. -/
def all : List Code :=
  [.classNameCase, .finalExtended, .fieldNameCase, .duplicateField, .shadowedField,
   .markerOnTypedef, .optionalPrimitive, .timestampDigits, .numberDigits, .decimalDigits,
   .decimalScale, .fieldSize, .recursiveTypedef, .unmappedType, .missingEnum, .missingPackage]

/-- The code as it is written. -/
def text : Code → String
  | .classNameCase => "E1001"
  | .finalExtended => "E1002"
  | .fieldNameCase => "E1003"
  | .duplicateField => "E1004"
  | .shadowedField => "E1005"
  | .markerOnTypedef => "E1006"
  | .optionalPrimitive => "E1007"
  | .timestampDigits => "E1010"
  | .numberDigits => "E1011"
  | .decimalDigits => "E1012"
  | .decimalScale => "E1013"
  | .fieldSize => "E1014"
  | .recursiveTypedef => "E2001"
  | .unmappedType => "E2002"
  | .missingEnum => "E2003"
  | .missingPackage => "E9001"

/-- A one-line summary. -/
def description : Code → String
  | .classNameCase => "class name does not start with an upper case letter"
  | .finalExtended => "class extends a final class"
  | .fieldNameCase => "field name does not start with a lower case letter"
  | .duplicateField => "field name is not unique within its class"
  | .shadowedField => "field shadows a field of an extended class"
  | .markerOnTypedef => "required/optional marker on a field with a typedef'd type"
  | .optionalPrimitive => "optional marker conflicts with a lower case data type"
  | .timestampDigits => "timestamp fractional seconds out of range"
  | .numberDigits => "number mantissa out of range"
  | .decimalDigits => "decimal mantissa out of range"
  | .decimalScale => "decimal scale out of range"
  | .fieldSize => "field size out of range"
  | .recursiveTypedef => "recursive typedef"
  | .unmappedType => "elementary type has no target representation"
  | .missingEnum => "enum type without an enum reference"
  | .missingPackage => "data type without an enclosing package"

def stage : Code → Stage
  | .recursiveTypedef | .unmappedType | .missingEnum => .resolution
  | .missingPackage => .internal
  | _ => .structural

/-- The code that a text writes, whatever the case of its letter. -/
def parse? (s : String) : Option Code :=
  all.find? fun c => Text.sameLetters c.text s

end Code

end SchemaTypes
