/-
The document in which a schema comes: a JSON object with a list of packages.
Here are its parts, as they are written; a reference is still a text and a
setting still a word. A member that may be left out is `none`, an empty list or
zero where it is.

`Document.read?` takes a document from its text.
-/
import SchemaTypes.Document.Shape

namespace SchemaTypes.Document

/-- A defaults block, with its settings as words. -/
structure DefaultsPart where
  visibility : Option String := none
  primitiveUse : Option String := none
  signedness : Option String := none
  trimming : Option String := none
  controlChars : Option String := none
  required : Option String := none
deriving DecidableEq, Repr

structure EnumPart where
  name : String := ""
  values : List String := []
  span : Option Span := none
deriving DecidableEq, Repr

/-- An elementary type, with its settings as words and its enumeration as a reference. -/
structure ElementaryPart where
  name : String := ""
  length : Nat := 0
  decimals : Nat := 0
  signedness : Option String := none
  trimming : Option String := none
  controlChars : Option String := none
  enumeration : Option String := none
  span : Option Span := none
deriving DecidableEq, Repr

/-- A type: a scalar, or a reference to a class or a typedef. -/
inductive TypePart where
  | elementary (e : ElementaryPart)
  | object (reference : String)
  | typedef (reference : String)
deriving DecidableEq, Repr

structure TypedefPart where
  name : String := ""
  type : TypePart := .object ""
  span : Option Span := none
deriving DecidableEq, Repr

structure FieldPart where
  name : String := ""
  type : TypePart := .object ""
  required : Option String := none
  span : Option Span := none
deriving DecidableEq, Repr

structure ClassPart where
  name : String := ""
  parent : Option String := none
  isFinal : Bool := false
  defaults : Option DefaultsPart := none
  fields : List FieldPart := []
  span : Option Span := none
deriving DecidableEq, Repr

structure PackagePart where
  name : String := ""
  defaults : Option DefaultsPart := none
  enums : List EnumPart := []
  typedefs : List TypedefPart := []
  classes : List ClassPart := []
  span : Option Span := none
deriving DecidableEq, Repr

end SchemaTypes.Document

namespace SchemaTypes

/-- A whole document. -/
structure Document where
  packages : List Document.PackagePart := []
deriving DecidableEq, Repr

end SchemaTypes

namespace SchemaTypes.Document

/-! ## The shapes of the parts -/

def defaultsShape : Shape DefaultsPart where
  title := "struct DefaultsDto"
  blank := {}
  members := [
    .optional "visibility" (takeOptional takeText) fun p v => { p with visibility := v },
    .optional "use_primitives" (takeOptional takeText) fun p v => { p with primitiveUse := v },
    .optional "signed" (takeOptional takeText) fun p v => { p with signedness := v },
    .optional "trimming" (takeOptional takeText) fun p v => { p with trimming := v },
    .optional "allow_ctrls" (takeOptional takeText) fun p v => { p with controlChars := v },
    .optional "required" (takeOptional takeText) fun p v => { p with required := v }]

def enumShape : Shape EnumPart where
  title := "struct EnumDto"
  blank := {}
  members := [
    .needed "name" takeText fun p v => { p with name := v },
    .optional "values" (takeList takeText) fun p v => { p with values := v },
    .optional "span" (takeOptional takeSpan) fun p v => { p with span := v }]

def elementaryShape : Shape ElementaryPart where
  title := "struct ElementaryDto"
  blank := {}
  members := [
    .needed "name" takeText fun p v => { p with name := v },
    .optional "length" takeWord fun p v => { p with length := v },
    .optional "decimals" takeWord fun p v => { p with decimals := v },
    .optional "signed" (takeOptional takeText) fun p v => { p with signedness := v },
    .optional "trimming" (takeOptional takeText) fun p v => { p with trimming := v },
    .optional "allow_ctrls" (takeOptional takeText) fun p v => { p with controlChars := v },
    .optional "enum" (takeOptional takeText) fun p v => { p with enumeration := v },
    .optional "span" (takeOptional takeSpan) fun p v => { p with span := v }]

def takeType : Taker TypePart :=
  takeVariant [
    ⟨"elementary", fun r => (elementaryShape.take r).map .elementary⟩,
    ⟨"object", fun r => (takeText r).map .object⟩,
    ⟨"typedef", fun r => (takeText r).map .typedef⟩]

def typedefShape : Shape TypedefPart where
  title := "struct TypedefDto"
  blank := {}
  members := [
    .needed "name" takeText fun p v => { p with name := v },
    .needed "type" takeType fun p v => { p with type := v },
    .optional "span" (takeOptional takeSpan) fun p v => { p with span := v }]

def fieldShape : Shape FieldPart where
  title := "struct FieldDto"
  blank := {}
  members := [
    .needed "name" takeText fun p v => { p with name := v },
    .needed "type" takeType fun p v => { p with type := v },
    .optional "required" (takeOptional takeText) fun p v => { p with required := v },
    .optional "span" (takeOptional takeSpan) fun p v => { p with span := v }]

def classShape : Shape ClassPart where
  title := "struct ClassDto"
  blank := {}
  members := [
    .needed "name" takeText fun p v => { p with name := v },
    .optional "extends" (takeOptional takeText) fun p v => { p with parent := v },
    .optional "final" takeBool fun p v => { p with isFinal := v },
    .optional "defaults" (takeOptional defaultsShape.take) fun p v => { p with defaults := v },
    .optional "fields" (takeList fieldShape.take) fun p v => { p with fields := v },
    .optional "span" (takeOptional takeSpan) fun p v => { p with span := v }]

def packageShape : Shape PackagePart where
  title := "struct PackageDto"
  blank := {}
  members := [
    .needed "name" takeText fun p v => { p with name := v },
    .optional "defaults" (takeOptional defaultsShape.take) fun p v => { p with defaults := v },
    .optional "enums" (takeList enumShape.take) fun p v => { p with enums := v },
    .optional "typedefs" (takeList typedefShape.take) fun p v => { p with typedefs := v },
    .optional "classes" (takeList classShape.take) fun p v => { p with classes := v },
    .optional "span" (takeOptional takeSpan) fun p v => { p with span := v }]

def documentShape : Shape Document where
  title := "struct ModelDto"
  blank := {}
  members := [
    .optional "packages" (takeList packageShape.take) fun p v => { p with packages := v }]

/-- The document that a text holds. Nothing but white space may follow it. -/
def read? (text : String) : Except ReadFault Document := do
  let (reading, rest) := Json.Reading.ofText text
  let document ← documentShape.take reading
  if Json.Reading.isWhole rest then pure document
  else throw (.malformed .trailingCharacters)

end SchemaTypes.Document
