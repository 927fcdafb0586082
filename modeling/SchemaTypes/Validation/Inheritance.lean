/-
What a class may inherit and what a field may be called beside others: a final
class is not extended, the fields of one class have different names, and no
field has the name of one in a class further up.
-/
import SchemaTypes.Diagnostic.Basic
import SchemaTypes.Schema.Containment

namespace SchemaTypes.Validation

def finalParent (s : Schema) (c : ClassDecl) : Option (List Diagnostic) :=
  match c.parent with
  | none => some []
  | some parent => do
    let d ← s.class? parent
    if d.isFinal then
      let parentName ← s.className parent
      pure [{
        code := .finalExtended
        message := "class `" ++ c.name ++ "` may not extend final class `" ++ parentName ++ "`"
        labels := [⟨c.span, "`" ++ c.name ++ "` extends `" ++ parentName ++ "`", true⟩,
          ⟨d.span, "declared final here", false⟩] }]
    else pure []

/-- A repeated name is reported at each field that has it, with a pointer to the first of
the other ones. -/
def duplicateName (s : Schema) (id : FieldId) (f : FieldDecl) : Option (List Diagnostic) := do
  let owner ← s.class? f.owner
  match ← s.firstNamed f.name (some id) owner.fields.toList with
  | none => pure []
  | some other =>
    let twin ← s.field? other
    pure [{
      code := .duplicateField
      message := "field name `" ++ f.name ++ "` is not unique within class `" ++ owner.name ++ "`"
      labels := [⟨f.span, "duplicate field", true⟩, ⟨twin.span, "also declared here", false⟩] }]

/-- What a field shadows in one class further up. -/
def shadowedIn (s : Schema) (id : FieldId) (f : FieldDecl) (ancestor : ClassId) :
    Option (List Diagnostic) := do
  let owner ← s.class? ancestor
  match ← s.firstNamed f.name (some id) owner.fields.toList with
  | none => pure []
  | some inherited =>
    let ancestorName ← s.className ancestor
    let twin ← s.field? inherited
    pure [{
      code := .shadowedField
      message :=
        "field `" ++ f.name ++ "` occurs in extended class `" ++ ancestorName ++ "` already"
      labels := [⟨f.span, "shadows an inherited field", true⟩,
        ⟨twin.span, "declared in `" ++ ancestorName ++ "` here", false⟩]
      notes := ["shadowing is not allowed in bonaparte"] }]

/-- What a field shadows in all classes further up, the nearest first. -/
def shadowing (s : Schema) (id : FieldId) (f : FieldDecl) : Option (List Diagnostic) := do
  let ancestors ← s.superclasses f.owner
  let found ← ancestors.mapM (shadowedIn s id f)
  pure found.flatten

end SchemaTypes.Validation
