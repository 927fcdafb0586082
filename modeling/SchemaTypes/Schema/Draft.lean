/-
A schema under construction. Declarations come first and are wired together
afterwards, so references may point forward and typedefs may be circular. A
typedef is declared under its name and defined later, exactly once.

Handles are issued in order, starting from zero. An operation on a handle that
the draft has not issued changes nothing; `issued` tells which handles are its
own. A handle that is only stored (a parent, a package, the inside of a data
type) is not looked at.
-/
import SchemaTypes.Schema.Basic

namespace SchemaTypes

/-- A typedef that may still lack its data type. -/
structure DraftTypedef where
  name : String
  package : Option PackageId
  dataType : Option DataTypeId := none
  span : Span := .absent
deriving DecidableEq, Repr

/-- Why a draft is no schema: a typedef is defined never or more than once. -/
inductive DraftFault where
  | undefinedTypedef (name : String)
  | redefinedTypedef (name : String)
deriving DecidableEq, Repr

def DraftFault.message : DraftFault → String
  | .undefinedTypedef name => "typedef `" ++ name ++ "` has no aliased data type"
  | .redefinedTypedef name => "typedef `" ++ name ++ "` is defined more than once"

structure Draft where
  names : NameTable := .empty
  packages : Array PackageDecl := #[]
  classes : Array ClassDecl := #[]
  fields : Array FieldDecl := #[]
  typedefs : Array DraftTypedef := #[]
  enums : Array EnumDecl := #[]
  dataTypes : Array DataType := #[]
  /-- The first typedef that was defined a second time. -/
  redefined : Option String := none

namespace Draft

def empty : Draft := {}

/-- Whether a handle lies in the draft's tables. -/
def issued (d : Draft) : Node → Bool
  | .package p => p.index < d.packages.size
  | .classDecl c => c.index < d.classes.size
  | .field f => f.index < d.fields.size
  | .typedef t => t.index < d.typedefs.size
  | .enumDecl e => e.index < d.enums.size
  | .dataType n => n.index < d.dataTypes.size

/-- Puts a name into the name table without declaring anything. -/
def addName (d : Draft) (name : String) : Draft :=
  { d with names := d.names.insert name }

/-! ## Declarations -/

def addPackage (d : Draft) (name : String) : PackageId × Draft :=
  (⟨d.packages.size⟩, { d.addName name with packages := d.packages.push { name } })

def addClass (d : Draft) (package : Option PackageId) (name : String) : ClassId × Draft :=
  (⟨d.classes.size⟩, { d.addName name with classes := d.classes.push { name, package } })

def addTypedef (d : Draft) (package : Option PackageId) (name : String) : TypedefId × Draft :=
  (⟨d.typedefs.size⟩, { d.addName name with typedefs := d.typedefs.push { name, package } })

/-- Declares an enumeration. Its values enter the name table before its own name. -/
def addEnum (d : Draft) (package : PackageId) (name : String) (values : List String) :
    EnumId × Draft :=
  let named := (values.foldl addName d).addName name
  (⟨d.enums.size⟩,
    { named with enums := d.enums.push { name, package := some package, values } })

def addDataType (d : Draft) (form : TypeForm) (owner : TypeOwner) : DataTypeId × Draft :=
  (⟨d.dataTypes.size⟩, { d with dataTypes := d.dataTypes.push { form, owner } })

/-- Appends a field to a class, together with its data type. -/
def addField (d : Draft) (owner : ClassId) (name : String) (form : TypeForm) : FieldId × Draft :=
  let id : FieldId := ⟨d.fields.size⟩
  let (dataType, typed) := d.addDataType form (.field id)
  (id, { typed.addName name with
    fields := d.fields.push { name, owner, dataType }
    classes := d.classes.modify owner.index fun c => { c with fields := c.fields.push id } })

/-- Gives a typedef its data type. A second definition only adds a data type and is
remembered as a fault. -/
def define (d : Draft) (t : TypedefId) (form : TypeForm) : DataTypeId × Draft :=
  let (dataType, typed) := d.addDataType form (.typedef t)
  match d.typedefs[t.index]? with
  | none => (dataType, typed)
  | some pending =>
    if pending.dataType.isSome then
      (dataType, { typed with redefined := d.redefined.or (some pending.name) })
    else
      (dataType, { typed with
        typedefs := d.typedefs.modify t.index fun p => { p with dataType := some dataType } })

/-! ## Properties of what is declared -/

def setPackageDefaults (d : Draft) (p : PackageId) (defaults : Defaults) : Draft :=
  { d with packages := d.packages.modify p.index fun x => { x with defaults := some defaults } }

def setParent (d : Draft) (c parent : ClassId) : Draft :=
  { d with classes := d.classes.modify c.index fun x => { x with parent := some parent } }

def setFinal (d : Draft) (c : ClassId) (isFinal : Bool) : Draft :=
  { d with classes := d.classes.modify c.index fun x => { x with isFinal } }

def setClassDefaults (d : Draft) (c : ClassId) (defaults : Defaults) : Draft :=
  { d with classes := d.classes.modify c.index fun x => { x with defaults := some defaults } }

def setRequired (d : Draft) (f : FieldId) (marker : Required) : Draft :=
  { d with fields := d.fields.modify f.index fun x => { x with required := some marker } }

def setSpan (d : Draft) (node : Node) (span : Span) : Draft :=
  match node with
  | .package p => { d with packages := d.packages.modify p.index fun x => { x with span } }
  | .classDecl c => { d with classes := d.classes.modify c.index fun x => { x with span } }
  | .field f => { d with fields := d.fields.modify f.index fun x => { x with span } }
  | .typedef t => { d with typedefs := d.typedefs.modify t.index fun x => { x with span } }
  | .enumDecl e => { d with enums := d.enums.modify e.index fun x => { x with span } }
  | .dataType n => { d with dataTypes := d.dataTypes.modify n.index fun x => { x with span } }

/-! ## The end of the construction -/

/-- A typedef as the schema has it, which needs its definition. -/
def finishTypedef (t : DraftTypedef) : Except DraftFault TypedefDecl :=
  match t.dataType with
  | none => .error (.undefinedTypedef t.name)
  | some dataType => .ok { name := t.name, package := t.package, dataType, span := t.span }

/-- The schema, if every typedef was defined exactly once. A typedef defined twice is
reported before one that was never defined. -/
def finish (d : Draft) : Except DraftFault Schema :=
  match d.redefined with
  | some name => .error (.redefinedTypedef name)
  | none => do
    let typedefs ← d.typedefs.toList.mapM finishTypedef
    pure {
      names := d.names
      packages := d.packages
      classes := d.classes
      fields := d.fields
      typedefs := typedefs.toArray
      enums := d.enums
      dataTypes := d.dataTypes }

end Draft

end SchemaTypes
