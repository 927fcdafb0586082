/-
The settings of a field that may be left to a defaults block: six closed
choices, each written as a keyword, and the block that may give any of them.
-/
import SchemaTypes.Text.Ascii

namespace SchemaTypes

/-- A closed choice whose values are written as keywords. -/
class Setting (α : Type) where
  /-- The values, in the order in which they are listed to users. -/
  all : List α
  keyword : α → String

export Setting (keyword)

/-- The value whose keyword a text is, whatever the case of its letters. -/
def Setting.parse? {α : Type} [Setting α] (s : String) : Option α :=
  (Setting.all (α := α)).find? fun v => Text.sameLetters (keyword v) s

inductive Visibility where
  | byDefault
  | isPrivate
  | isProtected
  | isPublic
deriving DecidableEq, Repr

/-- Whether a type may be emitted as a primitive or only in its boxed form. -/
inductive PrimitiveUse where
  | primitives
  | boxed
deriving DecidableEq, Repr

inductive Signedness where
  | signed
  | unsigned
deriving DecidableEq, Repr

inductive Trimming where
  | trim
  | noTrim
deriving DecidableEq, Repr

/-- Whether control characters may stand in a text. -/
inductive ControlChars where
  | allow
  | forbid
deriving DecidableEq, Repr

inductive Required where
  | required
  | optional
deriving DecidableEq, Repr

instance : Setting Visibility where
  all := [.byDefault, .isPrivate, .isProtected, .isPublic]
  keyword
    | .byDefault => "default"
    | .isPrivate => "private"
    | .isProtected => "protected"
    | .isPublic => "public"

instance : Setting PrimitiveUse where
  all := [.primitives, .boxed]
  keyword
    | .primitives => "usePrimitives"
    | .boxed => "useBoxed"

instance : Setting Signedness where
  all := [.signed, .unsigned]
  keyword
    | .signed => "signed"
    | .unsigned => "unsigned"

instance : Setting Trimming where
  all := [.trim, .noTrim]
  keyword
    | .trim => "trim"
    | .noTrim => "noTrim"

instance : Setting ControlChars where
  all := [.allow, .forbid]
  keyword
    | .allow => "allowControlChars"
    | .forbid => "noControlChars"

instance : Setting Required where
  all := [.required, .optional]
  keyword
    | .required => "required"
    | .optional => "optional"

/-- A defaults block of a package or a class. What it leaves out stays open. -/
structure Defaults where
  visibility : Option Visibility := none
  primitiveUse : Option PrimitiveUse := none
  signedness : Option Signedness := none
  trimming : Option Trimming := none
  controlChars : Option ControlChars := none
  required : Option Required := none
deriving DecidableEq, Repr

/-- Whether the block gives no setting at all. -/
def Defaults.isEmpty (d : Defaults) : Bool :=
  d == {}

end SchemaTypes
