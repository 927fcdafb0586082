/-
The bounds of the lengths declared with elementary types, in fields and
typedefs alike. A type whose name is unknown has no bounds; that it is unknown
is found when it is resolved.
-/
import SchemaTypes.Diagnostic.Basic
import SchemaTypes.Elementary.Kind
import SchemaTypes.Elementary.Spelling
import SchemaTypes.Schema.Basic

namespace SchemaTypes.Validation

/-- The largest size of a text or of raw data, 2^30. -/
def largestSize : Nat := 1073741824

def lengthFault (code : Code) (span : Span) (message declared : String) : Diagnostic where
  code := code
  message := message
  labels := [⟨span, "declared as `" ++ declared ++ "`", true⟩]

/-- The type with its length, as declared. -/
def withLength (e : Elementary) : String :=
  e.name ++ "(" ++ toString e.length ++ ")"

/-- The type with its length and decimals, as declared. -/
def withDecimals (e : Elementary) : String :=
  e.name ++ "(" ++ toString e.length ++ "," ++ toString e.decimals ++ ")"

/-- What an elementary type breaks of the rule for its length. -/
def lengthFaults (e : Elementary) (span : Span) : LengthRule → List Diagnostic
  | .exempt => []
  | .fractionalSeconds =>
    if e.length > 3 then
      [lengthFault .timestampDigits span
        "fractional seconds must be at least 0 and at most 3 digits" (withLength e)]
    else []
  | .numberMantissa =>
    if e.length = 0 ∨ e.length > 9 then
      [lengthFault .numberDigits span "mantissa must be at least 1 and at most 9" (withLength e)]
    else []
  | .decimalMantissa =>
    (if e.length = 0 ∨ e.length > 18 then
      [lengthFault .decimalDigits span "mantissa must be at least 1 and at most 18"
        (withDecimals e)]
    else []) ++
    (if e.decimals > e.length then
      [lengthFault .decimalScale span "decimals may not exceed the length of the mantissa"
        (withDecimals e)]
    else [])
  | .size =>
    if e.length = 0 ∨ e.length > largestSize then
      [lengthFault .fieldSize span "field size must be at least 1 and at most 1 GB"
        (withLength e)]
    else []

def dataTypeLength (d : DataType) : List Diagnostic :=
  match d.form with
  | .elementary e =>
    match Kind.ofName? (Spelling.canonical e.name).name with
    | some kind => lengthFaults e d.span kind.lengthRule
    | none => []
  | _ => []

def lengths (s : Schema) : List Diagnostic :=
  s.dataTypes.toList.flatMap dataTypeLength

end SchemaTypes.Validation
