/-
The elementary types: their names, what a generator emits for them, and which
bounds hold for the length given with them. Several names may denote one kind
(`int` and `integer`).
-/
import SchemaTypes.Text.Ascii

namespace SchemaTypes

/-- What the name of an elementary type denotes. -/
inductive Kind where
  | boolean
  | int
  | long
  | float
  | double
  | number
  | decimal
  | byte
  | short
  | char
  | raw
  | timestamp
  | day
  | uppercase
  | lowercase
  | ascii
  | unicode
  | string
  | enum
deriving DecidableEq, Repr

/-- Which bounds hold for a declared length and its decimals. -/
inductive LengthRule where
  /-- No length is declared. -/
  | exempt
  /-- The digits of a second's fraction, at most 3. -/
  | fractionalSeconds
  /-- The digits of a whole number, 1 to 9. -/
  | numberMantissa
  /-- The digits of a decimal number, 1 to 18, of which at most all follow the point. -/
  | decimalMantissa
  /-- Characters or bytes, 1 up to 2^30. -/
  | size
deriving DecidableEq, Repr

/-- What a generator emits for an elementary type. -/
inductive Representation where
  | boolean
  | integer
  | long
  | float
  | double
  | bigDecimal
  | byte
  | short
  | character
  | byteArray
  | calendar
  | string
  /-- An enumeration, under its declared name. -/
  | enumeration (name : String)
deriving DecidableEq, Repr

def Representation.name : Representation → String
  | .boolean => "Boolean"
  | .integer => "Integer"
  | .long => "Long"
  | .float => "Float"
  | .double => "Double"
  | .bigDecimal => "BigDecimal"
  | .byte => "Byte"
  | .short => "Short"
  | .character => "Character"
  | .byteArray => "byte []"
  | .calendar => "GregorianCalendar"
  | .string => "String"
  | .enumeration name => name

def LengthRule.name : LengthRule → String
  | .exempt => "Exempt"
  | .fractionalSeconds => "FractionalSeconds"
  | .numberMantissa => "NumberMantissa"
  | .decimalMantissa => "DecimalMantissa"
  | .size => "Size"

namespace Kind

/-- The names of the elementary types in lower case, with what they denote. -/
def table : List (String × Kind) :=
  [("boolean", .boolean), ("int", .int), ("integer", .int), ("long", .long), ("float", .float),
   ("double", .double), ("number", .number), ("decimal", .decimal), ("byte", .byte),
   ("short", .short), ("char", .char), ("character", .char), ("raw", .raw), ("bytes", .raw),
   ("timestamp", .timestamp), ("day", .day), ("uppercase", .uppercase),
   ("lowercase", .lowercase), ("ascii", .ascii), ("unicode", .unicode), ("string", .string),
   ("enum", .enum)]

/-- What a type name denotes, whatever the case of its letters. -/
def ofName? (name : String) : Option Kind :=
  (table.find? fun entry => Text.sameLetters entry.1 name).map (·.2)

/-- The first name in the table that denotes the kind. -/
def name (k : Kind) : String :=
  ((table.find? fun entry => entry.2 == k).map (·.1)).getD ""

theorem ofName?_name (k : Kind) : ofName? k.name = some k := by
  cases k <;> decide

/-- What is emitted for the kind. An `enum` is emitted as the enumeration behind it, so
its kind alone has no representation. -/
def representation? : Kind → Option Representation
  | .boolean => some .boolean
  | .int | .number => some .integer
  | .long => some .long
  | .float => some .float
  | .double => some .double
  | .decimal => some .bigDecimal
  | .byte => some .byte
  | .short => some .short
  | .char => some .character
  | .raw => some .byteArray
  | .timestamp | .day => some .calendar
  | .uppercase | .lowercase | .ascii | .unicode | .string => some .string
  | .enum => none

def lengthRule : Kind → LengthRule
  | .timestamp => .fractionalSeconds
  | .number => .numberMantissa
  | .decimal => .decimalMantissa
  | .raw | .uppercase | .lowercase | .ascii | .unicode | .string => .size
  | .boolean | .int | .long | .float | .double | .byte | .short | .char | .day | .enum => .exempt

end Kind

end SchemaTypes
