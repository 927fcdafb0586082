/-
The attributes of an elementary data type. Each is the first one set among the
data type itself, the defaults block of the class around it and the defaults
block of the package around that; where none sets it, a fixed value holds.

A typedef stands in a package directly, so its data type has no class level.
-/
import SchemaTypes.Schema.Basic
import SchemaTypes.Resolution.Failure

namespace SchemaTypes

/-- The defaults blocks around a data type, the inner one first. -/
structure Cascade where
  inClass : Option Defaults
  inPackage : Option Defaults
deriving DecidableEq, Repr

namespace Cascade

/-- The value set first: by the data type itself, by the class, by the package. -/
def first {α : Type} (c : Cascade) (own : Option α) (pick : Defaults → Option α) : Option α :=
  own.or ((c.inClass.bind pick).or (c.inPackage.bind pick))

/-- The blocks around what stands in a package, or nothing outside of one. -/
def inside (s : Schema) (inClass : Option Defaults) :
    Option PackageId → Option (Option Cascade)
  | none => some none
  | some p => (s.package? p).map fun d => some ⟨inClass, d.defaults⟩

/-- The blocks around a data type, or nothing if no package is around it. -/
def ofDataType (s : Schema) (id : DataTypeId) : Option (Option Cascade) := do
  let d ← s.dataType? id
  match d.owner with
  | .field f => do
    let field ← s.field? f
    let owner ← s.class? field.owner
    inside s owner.defaults owner.package
  | .typedef t => do
    let typedef ← s.typedef? t
    inside s none typedef.package

end Cascade

/-- The attributes in force for an elementary data type. -/
structure Attributes where
  signed : Bool
  trim : Bool
  allowControlChars : Bool
  visibility : Visibility
  primitiveUse : PrimitiveUse
  /-- Open if neither the class nor the package says it. -/
  required : Option Required
deriving DecidableEq, Repr

namespace Attributes

/-- The attributes that a cascade gives to an elementary type. -/
def ofCascade (c : Cascade) (e : Elementary) : Attributes where
  signed := (c.first e.signedness (·.signedness)).getD .signed == .signed
  trim := (c.first e.trimming (·.trimming)).getD .noTrim == .trim
  allowControlChars := (c.first e.controlChars (·.controlChars)).getD .allow == .allow
  visibility := (c.first none (·.visibility)).getD .byDefault
  primitiveUse := (c.first none (·.primitiveUse)).getD .primitives
  required := c.first none (·.required)

/-- The attributes of an elementary type at a data type, which must be inside a package. -/
def ofDataType (s : Schema) (id : DataTypeId) (e : Elementary) :
    Option (Except Failure Attributes) := do
  match ← Cascade.ofDataType s id with
  | some cascade => pure (.ok (ofCascade cascade e))
  | none =>
    let d ← s.dataType? id
    pure (.error ⟨.missingPackage, e.name, d.span⟩)

end Attributes

end SchemaTypes
