/-
Descriptors: what a generator needs to know of one data type, after every
typedef on the way has been followed.
-/
import SchemaTypes.Elementary.Kind
import SchemaTypes.Resolution.Attributes

namespace SchemaTypes

/-- All that is needed to emit an elementary type. -/
structure ElementaryTarget where
  kind : Kind
  /-- The type's name in its canonical spelling. -/
  name : String
  representation : Representation
  /-- Whether a primitive may be emitted, which is never absent. -/
  primitiveCapable : Bool
  /-- Whether the type is a text whose letters are checked. -/
  validated : Bool
  /-- Whether the name was declared with an upper case letter first. -/
  capitalized : Bool
  length : Nat
  decimals : Nat
  enumeration : Option EnumId
  attributes : Attributes
deriving DecidableEq, Repr

/-- Where a data type leads in the end. -/
inductive Target where
  | elementary (e : ElementaryTarget)
  | object (c : ClassId)
deriving DecidableEq, Repr

structure Descriptor where
  /-- The data type that was resolved. -/
  origin : DataTypeId
  /-- The typedef that the origin names, if it names one. -/
  typedef : Option TypedefId
  target : Target
deriving DecidableEq, Repr

namespace Descriptor

def elementary? (d : Descriptor) : Option ElementaryTarget :=
  match d.target with
  | .elementary e => some e
  | .object _ => none

def object? (d : Descriptor) : Option ClassId :=
  match d.target with
  | .object c => some c
  | .elementary _ => none

def kind? (d : Descriptor) : Option Kind :=
  d.elementary?.map (·.kind)

def representation? (d : Descriptor) : Option Representation :=
  d.elementary?.map (·.representation)

def attributes? (d : Descriptor) : Option Attributes :=
  d.elementary?.map (·.attributes)

def isPrimitiveCapable (d : Descriptor) : Bool :=
  d.elementary?.any (·.primitiveCapable)

def isValidated (d : Descriptor) : Bool :=
  d.elementary?.any (·.validated)

def isCapitalized (d : Descriptor) : Bool :=
  d.elementary?.any (·.capitalized)

/-- The default for `required`, where class or package gives one. -/
def required? (d : Descriptor) : Option Required :=
  d.attributes?.bind (·.required)

end Descriptor

end SchemaTypes
