/-
How declarations are to be named: classes with an upper case letter first,
fields with a lower case one. A diagnostic offers the name with that letter
changed.
-/
import SchemaTypes.Diagnostic.Basic
import SchemaTypes.Schema.Basic
import SchemaTypes.Text.LetterCase

namespace SchemaTypes.Validation

def classNaming (c : ClassDecl) : List Diagnostic :=
  if Text.startsUppercase c.name then []
  else
    let fixed := Text.capitalize c.name
    [{ code := .classNameCase
       message := "class name `" ++ c.name ++ "` should start with an upper case letter"
       labels := [⟨c.span, "class declared here", true⟩]
       suggestions := [⟨"rename the class to `" ++ fixed ++ "`", some fixed⟩] }]

def fieldNaming (f : FieldDecl) : List Diagnostic :=
  if Text.startsLowercase f.name then []
  else
    let fixed := Text.uncapitalize f.name
    [{ code := .fieldNameCase
       message := "field name `" ++ f.name ++ "` should start with a lower case letter"
       labels := [⟨f.span, "field declared here", true⟩]
       suggestions := [⟨"rename the field to `" ++ fixed ++ "`", some fixed⟩] }]

end SchemaTypes.Validation
