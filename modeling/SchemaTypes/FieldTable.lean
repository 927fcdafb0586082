/-
The table of resolved fields: for each field where its type leads, by way of
which typedef, and with which attributes. It is printed as one line for each
field or as a JSON list.
-/
import SchemaTypes.Json.Value
import SchemaTypes.Resolution.Descriptor

namespace SchemaTypes

/-- What a row tells of a scalar. -/
structure ScalarText where
  name : String
  representation : String
  length : Nat
  decimals : Nat
  primitive : Bool
  validated : Bool
  signed : Bool
  trim : Bool
  allowControlChars : Bool
  visibility : String
  required : Option String
deriving DecidableEq, Repr

def ScalarText.ofTarget (e : ElementaryTarget) : ScalarText where
  name := e.name
  representation := e.representation.name
  length := e.length
  decimals := e.decimals
  primitive := e.primitiveCapable
  validated := e.validated
  signed := e.attributes.signed
  trim := e.attributes.trim
  allowControlChars := e.attributes.allowControlChars
  visibility := keyword e.attributes.visibility
  required := e.attributes.required.map keyword

/-- Where a field's type leads, in words. -/
inductive TargetText where
  | elementary (e : ScalarText)
  /-- A class, under its qualified name. -/
  | object (className : String)
  | unresolved
deriving DecidableEq, Repr

structure FieldRow where
  /-- The qualified name of the field. -/
  field : String
  /-- The qualified name of the typedef that the field's type names. -/
  typedef : Option String
  target : TargetText
deriving DecidableEq, Repr

namespace FieldRow

def targetText (s : Schema) : Option Descriptor → Option TargetText
  | none => some .unresolved
  | some d =>
    match d.target with
    | .elementary e => some (.elementary (.ofTarget e))
    | .object c => (s.className c).map .object

def typedefText (s : Schema) (d : Option Descriptor) : Option (Option String) :=
  match d.bind (·.typedef) with
  | none => some none
  | some t => (s.typedefName t).map some

/-- The row of a field with the descriptor of its type. -/
def ofField (s : Schema) (id : FieldId) (d : Option Descriptor) : Option FieldRow := do
  let f ← s.field? id
  let owner ← s.className f.owner
  let typedef ← typedefText s d
  let target ← targetText s d
  pure { field := owner ++ "." ++ f.name, typedef, target }

/-! ## One line for each field -/

/-- The attributes of a scalar, each as one word. -/
def flags (e : ScalarText) : List String :=
  ["visibility=" ++ e.visibility,
    if e.signed then "signed" else "unsigned",
    if e.trim then "trim" else "noTrim",
    if e.allowControlChars then "allowControlChars" else "noControlChars"]
  ++ (if e.primitive then ["primitive"] else [])
  ++ (if e.validated then ["validated"] else [])
  ++ (match e.required with
    | some r => ["default=" ++ r]
    | none => [])

def line (r : FieldRow) : String :=
  let via := match r.typedef with
    | some t => " (via " ++ t ++ ")"
    | none => ""
  match r.target with
  | .elementary e =>
    r.field ++ ": " ++ e.name ++ "(" ++ toString e.length ++ "," ++ toString e.decimals ++ ")"
      ++ via ++ " -> " ++ e.representation ++ " [" ++ " ".intercalate (flags e) ++ "]\n"
  | .object className => r.field ++ ": object" ++ via ++ " -> " ++ className ++ "\n"
  | .unresolved => r.field ++ ": unresolved" ++ via ++ "\n"

/-! ## JSON -/

def targetJson : TargetText → Json.Value
  | .elementary e => .objectOf [
      some ("kind", .text "elementary"),
      some ("name", .text e.name),
      some ("representation", .text e.representation),
      some ("length", .number e.length),
      some ("decimals", .number e.decimals),
      some ("primitive", .bool e.primitive),
      some ("validated_subtype", .bool e.validated),
      some ("signed", .bool e.signed),
      some ("trim", .bool e.trim),
      some ("allow_control_chars", .bool e.allowControlChars),
      some ("visibility", .text e.visibility),
      e.required.map fun r => ("required", .text r)]
  | .object className => .object [("kind", .text "object"), ("class", .text className)]
  | .unresolved => .object [("kind", .text "unresolved")]

def toJson (r : FieldRow) : Json.Value :=
  .objectOf [some ("field", .text r.field), r.typedef.map fun t => ("typedef", .text t),
    some ("target", targetJson r.target)]

end FieldRow

namespace FieldTable

/-- The rows of several fields, in their order. -/
def rows (s : Schema) (fields : List (FieldId × Option Descriptor)) : Option (List FieldRow) :=
  fields.mapM fun (id, d) => FieldRow.ofField s id d

def text (rows : List FieldRow) : String :=
  String.join (rows.map FieldRow.line)

def toJson (rows : List FieldRow) : Json.Value :=
  .list (rows.map FieldRow.toJson)

end FieldTable

end SchemaTypes
