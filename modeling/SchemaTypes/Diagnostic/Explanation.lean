/-
The long explanations of the diagnostic codes: what is wrong, an example, and
how to mend it. They are Markdown texts, one for each code.
-/
import SchemaTypes.Diagnostic.Code

namespace SchemaTypes.Code

/-- A text from its lines, each of them ended. -/
def lines (ls : List String) : String :=
  String.join (ls.map (· ++ "\n"))

/-- The Markdown text about a code. -/
def explanation : Code → String
  | .classNameCase => lines [
    "# E1001: Class Name Case",
    "",
    "A class name does not start with an upper case letter.",
    "",
    "## Example",
    "",
    "```text",
    "class order \x7b",
    "    decimal(12,2) amount;",
    "\x7d",
    "```",
    "",
    "## Solution",
    "",
    "Rename the class so that its first letter is upper case:",
    "",
    "```text",
    "class Order \x7b",
    "    decimal(12,2) amount;",
    "\x7d",
    "```"]
  | .finalExtended => lines [
    "# E1002: Extending a Final Class",
    "",
    "A class declares `extends` pointing at a class marked `final`.",
    "",
    "## Example",
    "",
    "```text",
    "final class Base \x7b\x7d",
    "class Derived extends Base \x7b\x7d",
    "```",
    "",
    "## Solution",
    "",
    "Remove the `final` modifier from the parent class, or stop extending it."]
  | .fieldNameCase => lines [
    "# E1003: Field Name Case",
    "",
    "A field name does not start with a lower case letter.",
    "",
    "## Example",
    "",
    "```text",
    "class Order \x7b",
    "    decimal(12,2) Amount;",
    "\x7d",
    "```",
    "",
    "## Solution",
    "",
    "Rename the field so that its first letter is lower case (`amount`)."]
  | .duplicateField => lines [
    "# E1004: Duplicate Field",
    "",
    "The same field name is declared more than once within one class.",
    "",
    "## Example",
    "",
    "```text",
    "class Order \x7b",
    "    int id;",
    "    long id;",
    "\x7d",
    "```",
    "",
    "## Solution",
    "",
    "Every field of a class needs a distinct name. Rename or remove one of the declarations."]
  | .shadowedField => lines [
    "# E1005: Shadowed Field",
    "",
    "A field redeclares a name that is already used by a class further up the `extends` " ++
      "chain. bonaparte does not allow shadowing anywhere in the inheritance chain.",
    "",
    "## Example",
    "",
    "```text",
    "class Base \x7b",
    "    int id;",
    "\x7d",
    "class Derived extends Base \x7b",
    "    int id;",
    "\x7d",
    "```",
    "",
    "## Solution",
    "",
    "Remove the redeclaration; the inherited field is already part of the subclass. If a " ++
      "distinct value is needed, choose a different name."]
  | .markerOnTypedef => lines [
    "# E1006: Required/Optional on a Typedef",
    "",
    "A field whose data type is a typedef reference carries an explicit `required` or " ++
      "`optional` marker. The typedef itself fixes this property.",
    "",
    "## Example",
    "",
    "```text",
    "type Money is decimal(18,2);",
    "class Order \x7b",
    "    required Money amount;",
    "\x7d",
    "```",
    "",
    "## Solution",
    "",
    "Remove the marker from the field, or use a typedef with the desired nullability."]
  | .optionalPrimitive => lines [
    "# E1007: Optional Lower Case Type",
    "",
    "A field is marked `optional`, but its elementary type is spelled in lower case. Lower " ++
      "case elementary types (`int`, `string`, ...) carry an implicit `required` meaning.",
    "",
    "## Example",
    "",
    "```text",
    "class Order \x7b",
    "    optional string(30) comment;",
    "\x7d",
    "```",
    "",
    "## Solution",
    "",
    "Use the capitalized spelling (`String(30)`) for a nullable field, or drop the " ++
      "`optional` marker."]
  | .timestampDigits => lines [
    "# E1010: Timestamp Precision",
    "",
    "The fractional seconds of a `timestamp` must be between 0 and 3 digits.",
    "",
    "## Example",
    "",
    "```text",
    "timestamp(6) createdAt;",
    "```",
    "",
    "## Solution",
    "",
    "Use a precision between 0 and 3."]
  | .numberDigits => lines [
    "# E1011: Number Mantissa",
    "",
    "A `number` must have a mantissa of at least 1 and at most 9 digits.",
    "",
    "## Example",
    "",
    "```text",
    "number(12) quantity;",
    "```",
    "",
    "## Solution",
    "",
    "Use `long` or `decimal` for values that need more than 9 digits."]
  | .decimalDigits => lines [
    "# E1012: Decimal Mantissa",
    "",
    "A `decimal` must have a mantissa of at least 1 and at most 18 digits.",
    "",
    "## Example",
    "",
    "```text",
    "decimal(24,2) amount;",
    "```",
    "",
    "## Solution",
    "",
    "Use a mantissa between 1 and 18."]
  | .decimalScale => lines [
    "# E1013: Decimal Scale",
    "",
    "The number of decimals of a `decimal` may not be negative and may not exceed its mantissa.",
    "",
    "## Example",
    "",
    "```text",
    "decimal(4,6) ratio;",
    "```",
    "",
    "## Solution",
    "",
    "Use at most as many decimals as the mantissa has digits."]
  | .fieldSize => lines [
    "# E1014: Field Size",
    "",
    "Sized types (strings, raw data) must be at least 1 and at most 1 GB long.",
    "",
    "## Example",
    "",
    "```text",
    "string(0) name;",
    "```",
    "",
    "## Solution",
    "",
    "Declare a positive length."]
  | .recursiveTypedef => lines [
    "# E2001: Recursive Typedef",
    "",
    "A typedef refers to itself, directly or through other typedefs. Resolution would never " ++
      "reach an elementary type or class.",
    "",
    "## Example",
    "",
    "```text",
    "type A is B;",
    "type B is A;",
    "```",
    "",
    "## Solution",
    "",
    "Make one typedef in the chain alias an elementary type or a class."]
  | .unmappedType => lines [
    "# E2002: Unmapped Elementary Type",
    "",
    "The elementary type name has no target representation.",
    "",
    "## Example",
    "",
    "```text",
    "class Order \x7b",
    "    money amount;",
    "\x7d",
    "```",
    "",
    "## Solution",
    "",
    "Use one of the elementary types: boolean, int, integer, long, float, double, number, " ++
      "decimal, byte, short, char, character, raw, bytes, timestamp, day, uppercase, " ++
      "lowercase, ascii, unicode, string, enum."]
  | .missingEnum => lines [
    "# E2003: Enum Type Missing",
    "",
    "An `enum` elementary type does not name the enumeration it uses.",
    "",
    "## Example",
    "",
    "```text",
    "class Order \x7b",
    "    enum status;",
    "\x7d",
    "```",
    "",
    "## Solution",
    "",
    "Reference the enumeration: `enum OrderStatus status;`."]
  | .missingPackage => lines [
    "# E9001: Missing Enclosing Package",
    "",
    "A data type is not contained in any package. This indicates a malformed model handed " ++
      "over by the parser, not an error in the bonScript source.",
    "",
    "## Example",
    "",
    "```text",
    "(no source form)",
    "```",
    "",
    "## Solution",
    "",
    "Report the problem together with the input that produced the model."]

end SchemaTypes.Code
