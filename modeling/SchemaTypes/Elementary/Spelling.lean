/-
The two spellings of an elementary type: capitalized (`Int`, `Boolean`) for
the nullable, boxed form and lower case (`int`, `boolean`) for the required,
primitive one. The canonical spelling keeps that difference and settles the
two short names that differ between the forms.
-/
import SchemaTypes.Text.LetterCase

namespace SchemaTypes

/-- A type name after canonicalization. -/
structure Spelling where
  name : String
  /-- Whether the declared name began with an upper case letter. -/
  capitalized : Bool
deriving DecidableEq, Repr

namespace Spelling

/-- Long names in the capitalized form. -/
def boxedName : String → String
  | "Int" => "Integer"
  | "Char" => "Character"
  | other => other

/-- Short names in the lower case form. -/
def primitiveName : String → String
  | "integer" => "int"
  | "character" => "char"
  | other => other

/-- The canonical spelling of a declared type name. -/
def canonical (declared : String) : Spelling :=
  let capitalized := Text.startsUppercase declared
  { name := if capitalized then boxedName declared else primitiveName declared
    capitalized }

/-- The names that may stand for a primitive, in exactly this spelling. -/
def primitiveNames : List String :=
  ["boolean", "int", "long", "float", "double", "byte", "short", "char"]

def isPrimitive (canonical : String) : Bool :=
  primitiveNames.contains canonical

end Spelling

end SchemaTypes
