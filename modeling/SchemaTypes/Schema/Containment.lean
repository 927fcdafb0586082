/-
The two ways through a schema that do not follow typedefs: outward, from a
node to what contains it, and upward, along the `extends` links of a class.

Outward walks have at most three steps. Upward walks may run into a circle and
are cut after as many classes as the schema has.
-/
import SchemaTypes.Schema.Basic

namespace SchemaTypes.Schema

/-- What directly contains a node: nothing for a package or a detached node. -/
def container? (s : Schema) : Node → Option (Option Node)
  | .package _ => some none
  | .classDecl c => (s.class? c).map fun d => d.package.map .package
  | .field f => (s.field? f).map fun d => some (.classDecl d.owner)
  | .typedef t => (s.typedef? t).map fun d => d.package.map .package
  | .enumDecl e => (s.enum? e).map fun d => d.package.map .package
  | .dataType d => (s.dataType? d).map fun n => some <| match n.owner with
    | .field f => .field f
    | .typedef t => .typedef t

/-! ## Outward -/

/-- The containers of a class, typedef or enumeration: its package, if it has one. -/
def aroundPackaged (package : Option PackageId) : List Node :=
  (package.map .package).toList

def aroundClass (s : Schema) (c : ClassId) : Option (List Node) :=
  (s.class? c).map fun d => aroundPackaged d.package

def aroundField (s : Schema) (f : FieldId) : Option (List Node) := do
  let d ← s.field? f
  let outer ← s.aroundClass d.owner
  pure (.classDecl d.owner :: outer)

def aroundTypedef (s : Schema) (t : TypedefId) : Option (List Node) :=
  (s.typedef? t).map fun d => aroundPackaged d.package

def aroundDataType (s : Schema) (d : DataTypeId) : Option (List Node) := do
  let n ← s.dataType? d
  match n.owner with
  | .field f => (s.aroundField f).map (.field f :: ·)
  | .typedef t => (s.aroundTypedef t).map (.typedef t :: ·)

/-- All containers of a node, the innermost first. -/
def containers (s : Schema) : Node → Option (List Node)
  | .package _ => some []
  | .classDecl c => s.aroundClass c
  | .field f => s.aroundField f
  | .typedef t => s.aroundTypedef t
  | .enumDecl e => (s.enum? e).map fun d => aroundPackaged d.package
  | .dataType d => s.aroundDataType d

/-! ## Upward -/

/-- At most `limit` classes along the `extends` links, from a given one on. -/
def lineage (s : Schema) : Nat → Option ClassId → Option (List ClassId)
  | 0, _ => some []
  | _ + 1, none => some []
  | limit + 1, some c => do
    let d ← s.class? c
    let rest ← s.lineage limit d.parent
    pure (c :: rest)

/-- The classes that a class extends, the nearest first. -/
def superclasses (s : Schema) (c : ClassId) : Option (List ClassId) := do
  let d ← s.class? c
  s.lineage s.classes.size d.parent

/-! ## Search by name -/

/-- The first node of a table that satisfies a test. -/
def firstIndex? {α : Type} (table : Array α) (test : α → Bool) : Option Nat :=
  table.toList.findIdx? test

def findPackage? (s : Schema) (name : String) : Option PackageId :=
  (firstIndex? s.packages fun d => d.name == name).map .mk

def findClass? (s : Schema) (p : PackageId) (name : String) : Option ClassId :=
  (firstIndex? s.classes fun d => d.package == some p && d.name == name).map .mk

def findTypedef? (s : Schema) (p : PackageId) (name : String) : Option TypedefId :=
  (firstIndex? s.typedefs fun d => d.package == some p && d.name == name).map .mk

/-- The first field in a list that has a name, other than the excepted one. -/
def firstNamed (s : Schema) (name : String) (except : Option FieldId) :
    List FieldId → Option (Option FieldId)
  | [] => some none
  | f :: rest =>
    if some f = except then s.firstNamed name except rest
    else do
      let d ← s.field? f
      if d.name = name then pure (some f) else s.firstNamed name except rest

/-- The first field of a class with a name. A name that the schema never uses is
sought in no class, not even in one that dangles. -/
def findField? (s : Schema) (c : ClassId) (name : String) : Option (Option FieldId) :=
  if (s.names.number? name).isNone then some none
  else do
    let d ← s.class? c
    s.firstNamed name none d.fields.toList

end SchemaTypes.Schema
