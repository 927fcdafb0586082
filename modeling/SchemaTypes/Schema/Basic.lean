/-
A schema: packages of classes, typedefs and enumerations, and the fields of
the classes. The nodes of each kind stand in a table of their own and refer to
each other by handle, the place in the table.

A schema may be malformed: nothing here says that a handle lies inside its
table, so each look-up answers `none` for a handle that dangles, and what is
computed by look-ups is an `Option` for that reason alone.
-/
import SchemaTypes.NameTable
import SchemaTypes.Setting
import SchemaTypes.Span

namespace SchemaTypes

/-! ## Handles -/

structure PackageId where
  index : Nat
deriving DecidableEq, Repr

structure ClassId where
  index : Nat
deriving DecidableEq, Repr

structure FieldId where
  index : Nat
deriving DecidableEq, Repr

structure TypedefId where
  index : Nat
deriving DecidableEq, Repr

structure EnumId where
  index : Nat
deriving DecidableEq, Repr

structure DataTypeId where
  index : Nat
deriving DecidableEq, Repr

/-- A handle of any kind. -/
inductive Node where
  | package (id : PackageId)
  | classDecl (id : ClassId)
  | field (id : FieldId)
  | typedef (id : TypedefId)
  | enumDecl (id : EnumId)
  | dataType (id : DataTypeId)
deriving DecidableEq, Repr

/-! ## Declarations -/

structure PackageDecl where
  name : String
  defaults : Option Defaults := none
  span : Span := .absent
deriving DecidableEq, Repr

structure ClassDecl where
  name : String
  /-- The package around the class; a class without one is malformed. -/
  package : Option PackageId
  /-- The class that this one extends. -/
  parent : Option ClassId := none
  isFinal : Bool := false
  /-- The fields in the order of their declaration. -/
  fields : Array FieldId := #[]
  defaults : Option Defaults := none
  span : Span := .absent
deriving DecidableEq, Repr

structure FieldDecl where
  name : String
  owner : ClassId
  dataType : DataTypeId
  /-- The marker `required` or `optional`, where the field carries one. -/
  required : Option Required := none
  span : Span := .absent
deriving DecidableEq, Repr

structure TypedefDecl where
  name : String
  /-- The package around the typedef; a typedef without one is malformed. -/
  package : Option PackageId
  /-- The data type that the typedef names. -/
  dataType : DataTypeId
  span : Span := .absent
deriving DecidableEq, Repr

structure EnumDecl where
  name : String
  package : Option PackageId
  values : List String
  span : Span := .absent
deriving DecidableEq, Repr

/-- A scalar type as declared, such as `decimal(12,2) unsigned`. -/
structure Elementary where
  /-- The type's name, in the spelling of the declaration. -/
  name : String
  length : Nat := 0
  decimals : Nat := 0
  signedness : Option Signedness := none
  trimming : Option Trimming := none
  controlChars : Option ControlChars := none
  /-- The enumeration behind an `enum`. -/
  enumeration : Option EnumId := none
deriving DecidableEq, Repr

/-- What a data type says: a scalar, a class, or the name of another data type. -/
inductive TypeForm where
  | elementary (e : Elementary)
  | object (c : ClassId)
  | alias (t : TypedefId)
deriving DecidableEq, Repr

/-- The declaration in which a data type is written. -/
inductive TypeOwner where
  | field (f : FieldId)
  | typedef (t : TypedefId)
deriving DecidableEq, Repr

structure DataType where
  form : TypeForm
  owner : TypeOwner
  span : Span := .absent
deriving DecidableEq, Repr

def TypeForm.isAlias : TypeForm → Bool
  | .alias _ => true
  | _ => false

def TypeForm.elementary? : TypeForm → Option Elementary
  | .elementary e => some e
  | _ => none

/-! ## The schema and its look-ups -/

structure Schema where
  names : NameTable
  packages : Array PackageDecl
  classes : Array ClassDecl
  fields : Array FieldDecl
  typedefs : Array TypedefDecl
  enums : Array EnumDecl
  dataTypes : Array DataType

namespace Schema

def package? (s : Schema) (id : PackageId) : Option PackageDecl :=
  s.packages[id.index]?

def class? (s : Schema) (id : ClassId) : Option ClassDecl :=
  s.classes[id.index]?

def field? (s : Schema) (id : FieldId) : Option FieldDecl :=
  s.fields[id.index]?

def typedef? (s : Schema) (id : TypedefId) : Option TypedefDecl :=
  s.typedefs[id.index]?

def enum? (s : Schema) (id : EnumId) : Option EnumDecl :=
  s.enums[id.index]?

def dataType? (s : Schema) (id : DataTypeId) : Option DataType :=
  s.dataTypes[id.index]?

def classIds (s : Schema) : List ClassId :=
  (List.range s.classes.size).map .mk

def fieldIds (s : Schema) : List FieldId :=
  (List.range s.fields.size).map .mk

def typedefIds (s : Schema) : List TypedefId :=
  (List.range s.typedefs.size).map .mk

def dataTypeIds (s : Schema) : List DataTypeId :=
  (List.range s.dataTypes.size).map .mk

/-- One line with the sizes of the tables, for logs. -/
def summary (s : Schema) : String :=
  let sizes := [("packages", s.packages.size), ("classes", s.classes.size),
    ("fields", s.fields.size), ("typedefs", s.typedefs.size), ("enums", s.enums.size),
    ("data_types", s.dataTypes.size)]
  "Model \x7b " ++ ", ".intercalate (sizes.map fun (table, n) => table ++ ": " ++ toString n)
    ++ " \x7d"

/-! ## Qualified names -/

/-- A name after that of its package, with a dot between; the bare name without a package. -/
def qualify (s : Schema) (package : Option PackageId) (name : String) : Option String :=
  match package with
  | none => some name
  | some p => (s.package? p).map fun d => d.name ++ "." ++ name

def className (s : Schema) (c : ClassId) : Option String := do
  let d ← s.class? c
  s.qualify d.package d.name

def typedefName (s : Schema) (t : TypedefId) : Option String := do
  let d ← s.typedef? t
  s.qualify d.package d.name

end Schema

end SchemaTypes
