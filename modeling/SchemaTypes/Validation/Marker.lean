/-
Where the markers `required` and `optional` may stand: not at a field of a
typedef, which settles the matter itself, and `optional` not at a type in its
lower case spelling, which is never absent.
-/
import SchemaTypes.Diagnostic.Basic
import SchemaTypes.Schema.Basic
import SchemaTypes.Text.LetterCase

namespace SchemaTypes.Validation

def markerOnTypedef (f : FieldDecl) (marker : Required) (typedefName : String) : Diagnostic :=
  let word := keyword marker
  { code := .markerOnTypedef
    message := "`" ++ word ++ "` is not allowed on field `" ++ f.name ++ "` of typedef `"
      ++ typedefName ++ "`"
    labels := [⟨f.span, "`" ++ word ++ "` given here", true⟩]
    notes := ["the typedef fixes whether the field is required"] }

def optionalPrimitive (f : FieldDecl) (typeName : String) : Diagnostic :=
  let boxed := Text.capitalize typeName
  { code := .optionalPrimitive
    message := "`optional` conflicts with the implicit `required` of `" ++ typeName ++ "`"
    labels := [⟨f.span, "field `" ++ f.name ++ "` is marked optional", true⟩]
    suggestions :=
      [⟨"use the capitalized type `" ++ boxed ++ "` for a nullable field", some boxed⟩] }

def fieldMarker (s : Schema) (f : FieldDecl) : Option (List Diagnostic) :=
  match f.required with
  | none => some []
  | some marker => do
    let d ← s.dataType? f.dataType
    match d.form with
    | .alias t => (s.typedefName t).map fun name => [markerOnTypedef f marker name]
    | .elementary e =>
      if marker = .optional ∧ Text.startsLowercase e.name then pure [optionalPrimitive f e.name]
      else pure []
    | .object _ => pure []

end SchemaTypes.Validation
