/-
JSON documents as values, and their printed form: two spaces for each level,
one item or member to a line, and no line for an empty list or object.
-/
namespace SchemaTypes.Json

/-- A JSON document. The members of an object have an order. Its numbers are natural. -/
inductive Value where
  | null
  | bool (b : Bool)
  | number (n : Nat)
  | text (s : String)
  | list (items : List Value)
  | object (members : List (String × Value))

/-! ## Texts -/

/-- A control character by its code point, with four hexadecimal digits. -/
def controlEscape (c : Char) : List Char :=
  ['\\', 'u', '0', '0', Nat.digitChar (c.toNat / 16), Nat.digitChar (c.toNat % 16)]

/-- One character of a text, as it stands between the quotes. -/
def escaped (c : Char) : List Char :=
  if c = '\"' then ['\\', '\"']
  else if c = '\\' then ['\\', '\\']
  else if c = '\x08' then ['\\', 'b']
  else if c = '\x0c' then ['\\', 'f']
  else if c = '\n' then ['\\', 'n']
  else if c = '\r' then ['\\', 'r']
  else if c = '\t' then ['\\', 't']
  else if c.toNat < 0x20 then controlEscape c
  else [c]

/-- A text between its quotes. -/
def textLiteral (s : String) : List Char :=
  '\"' :: (s.toList.flatMap escaped ++ ['\"'])

/-! ## Documents -/

/-- The start of a new line at a depth. -/
def lineStart (depth : Nat) : List Char :=
  '\n' :: List.replicate (2 * depth) ' '

mutual

/-- The characters of a document that begins at a depth. -/
def layout (depth : Nat) : Value → List Char
  | .null => "null".toList
  | .bool b => (if b then "true" else "false").toList
  | .number n => (toString n).toList
  | .text s => textLiteral s
  | .list [] => ['[', ']']
  | .list (v :: vs) =>
    '[' :: (lineStart (depth + 1) ++ (layout (depth + 1) v ++ layoutItems depth vs))
  | .object [] => ['\x7b', '\x7d']
  | .object ((k, v) :: ms) =>
    '\x7b' :: (lineStart (depth + 1) ++ (textLiteral k ++ (':' :: ' ' ::
      (layout (depth + 1) v ++ layoutMembers depth ms))))

/-- The items after the first, and the end of the list. -/
def layoutItems (depth : Nat) : List Value → List Char
  | [] => lineStart depth ++ [']']
  | v :: vs =>
    ',' :: (lineStart (depth + 1) ++ (layout (depth + 1) v ++ layoutItems depth vs))

/-- The members after the first, and the end of the object. -/
def layoutMembers (depth : Nat) : List (String × Value) → List Char
  | [] => lineStart depth ++ ['\x7d']
  | (k, v) :: ms =>
    ',' :: (lineStart (depth + 1) ++ (textLiteral k ++ (':' :: ' ' ::
      (layout (depth + 1) v ++ layoutMembers depth ms))))

end

/-- The printed form of a document. -/
def Value.pretty (v : Value) : String :=
  String.ofList (layout 0 v)

/-- The members that are present, out of some that may not be. -/
def Value.objectOf (members : List (Option (String × Value))) : Value :=
  .object (members.filterMap id)

end SchemaTypes.Json
