/-
How a JSON reading is taken apart into typed parts, and what is wrong with it
if that fails. The parts are taken in the order of the text.

A record may be written as an object, in any order of its members, or as a
list of its members in their fixed order. A `Shape` names the members and says
how each is put into the record.
-/
import SchemaTypes.Json.Reading
import SchemaTypes.Span
import SchemaTypes.Text.Quoted

namespace SchemaTypes.Document

open Json (Fault Reading Number ListEnd ObjectEnd)

/-! ## Faults -/

/-- What is wrong with a document as a text: its form as JSON, or what stands in it. -/
inductive ReadFault where
  | malformed (f : Fault)
  /-- Something of the wrong type. -/
  | wrongType (found expected : String)
  /-- A number outside of the range. -/
  | wrongValue (found expected : String)
  | wrongLength (length : Nat) (expected : String)
  | unknownField (name : String) (known : List String)
  | duplicateField (name : String)
  | missingField (name : String)
  | unknownVariant (name : String) (known : List String)
deriving DecidableEq, Repr

/-- Which kind of mistake a fault is. -/
inductive FaultCategory where
  /-- The text is no JSON. -/
  | form
  /-- The text ends too early. -/
  | ending
  /-- The text is JSON and no document. -/
  | content
deriving DecidableEq, Repr

namespace ReadFault

def category : ReadFault → FaultCategory
  | .malformed f => if f.isEnd then .ending else .form
  | _ => .content

/-- The choice among some names, as a message gives it. -/
def choice (names : List String) : String :=
  let ticked := names.map fun n => "`" ++ n ++ "`"
  match ticked with
  | [n] => n
  | _ => "one of " ++ ", ".intercalate ticked

def message : ReadFault → String
  | .malformed f => f.message
  | .wrongType found expected => "invalid type: " ++ found ++ ", expected " ++ expected
  | .wrongValue found expected => "invalid value: " ++ found ++ ", expected " ++ expected
  | .wrongLength n expected => "invalid length " ++ toString n ++ ", expected " ++ expected
  | .unknownField name known => "unknown field `" ++ name ++ "`, expected " ++ choice known
  | .duplicateField name => "duplicate field `" ++ name ++ "`"
  | .missingField name => "missing field `" ++ name ++ "`"
  | .unknownVariant name known => "unknown variant `" ++ name ++ "`, expected " ++ choice known

end ReadFault

/-! ## Simple values -/

/-- A way to take a reading apart. -/
abbrev Taker (α : Type) := Reading → Except ReadFault α

def numberWords : Number → String
  | .natural n => "integer `" ++ toString n ++ "`"
  | .negative n => "integer `-" ++ toString n ++ "`"
  | .floating x => "floating point `" ++ Number.floatText x ++ "`"

/-- The complaint about a reading that is not what was expected. A fault of form comes first. -/
def mismatch (expected : String) : Reading → ReadFault
  | .null => .wrongType "null" expected
  | .bool b => .wrongType ("boolean `" ++ (if b then "true" else "false") ++ "`") expected
  | .number n => .wrongType (numberWords n) expected
  | .text s => .wrongType ("string " ++ Text.quoted s) expected
  | .list _ _ => .wrongType "sequence" expected
  | .object _ _ => .wrongType "map" expected
  | .brokenWord f => .malformed f
  | .brokenText f => .malformed f
  | .absent f => .malformed f

def takeText : Taker String
  | .text s => .ok s
  | r => .error (mismatch "a string" r)

def takeBool : Taker Bool
  | .bool b => .ok b
  | r => .error (mismatch "a boolean" r)

/-- The largest 32-bit natural number. -/
def largestNumber : Nat := 0xFFFFFFFF

/-- A natural number of at most 32 bits. -/
def takeWord : Taker Nat
  | .number (.natural n) =>
    if n ≤ largestNumber then .ok n else .error (.wrongValue (numberWords (.natural n)) "u32")
  | .number (.negative n) => .error (.wrongValue (numberWords (.negative n)) "u32")
  | r => .error (mismatch "u32" r)

/-- A value that may be left out by writing `null`. -/
def takeOptional {α : Type} (take : Taker α) : Taker (Option α)
  | .null => .ok none
  | r => (take r).map some

/-! ## Lists -/

/-- The end of a list, where one more item could have followed. -/
def endOpen : ListEnd → Except ReadFault Unit
  | .closed => .ok ()
  | .unfinished => .error (.malformed .endInList)
  | .noComma => .error (.malformed .expectedCommaInList)
  | .commaClosed => .error (.malformed .trailingComma)
  | .commaUnfinished => .error (.malformed .endInValue)
  | .cut => .error (.malformed .expectedValue)

/-- The end of a list that must hold nothing more, given what it still holds. -/
def endFull (more : List Reading) (ending : ListEnd) : Except ReadFault Unit :=
  match more, ending with
  | [], .closed => .ok ()
  | [], .unfinished => .error (.malformed .endInList)
  | [], .commaClosed => .error (.malformed .trailingComma)
  | _, _ => .error (.malformed .trailingCharacters)

def takeList {α : Type} (take : Taker α) : Taker (List α)
  | .list items ending => do
    let taken ← items.mapM take
    endOpen ending
    pure taken
  | r => .error (mismatch "a sequence" r)

/-- What a pair of numbers is called in messages. -/
def pairName : String := "an array of length 2"

/-- A span, written as the list of its two ends. -/
def takeSpan : Taker Span
  | .list [] ending => do
    endOpen ending
    throw (.wrongLength 0 pairName)
  | .list [start] ending => do
    let _ ← takeWord start
    endOpen ending
    throw (.wrongLength 1 pairName)
  | .list (start :: stop :: more) ending => do
    let start ← takeWord start
    let stop ← takeWord stop
    endFull more ending
    pure ⟨start, stop⟩
  | r => .error (mismatch pairName r)

/-! ## Records -/

/-- A member of a record. -/
structure Member (α : Type) where
  name : String
  /-- Whether a record without this member is refused. -/
  isRequired : Bool
  /-- Puts the member's value into a record. -/
  put : α → Reading → Except ReadFault α

/-- A member that a record must have. -/
def Member.needed {α β : Type} (name : String) (take : Taker β) (set : α → β → α) : Member α :=
  ⟨name, true, fun record r => (take r).map (set record)⟩

/-- A member that a record may have. -/
def Member.optional {α β : Type} (name : String) (take : Taker β) (set : α → β → α) : Member α :=
  ⟨name, false, fun record r => (take r).map (set record)⟩

structure Shape (α : Type) where
  /-- What the record is called in messages. -/
  title : String
  /-- The record before any member is put into it. -/
  blank : α
  members : List (Member α)

namespace Shape

variable {α : Type}

def names (s : Shape α) : List String :=
  s.members.map (·.name)

/-- Puts the members of an object into a record, given the names seen before. -/
def putMembers (s : Shape α) :
    List String → α → List (String × Reading) → Except ReadFault (List String × α)
  | seen, record, [] => .ok (seen, record)
  | seen, record, (key, v) :: rest =>
    match s.members.find? (·.name == key) with
    | none => .error (.unknownField key s.names)
    | some m =>
      if seen.contains key then .error (.duplicateField key)
      else do
        let record ← m.put record v
        s.putMembers (key :: seen) record rest

/-- The end of an object, where one more member could have followed. -/
def endObject : ObjectEnd → Except ReadFault Unit
  | .closed => .ok ()
  | .unfinished => .error (.malformed .endInObject)
  | .noComma => .error (.malformed .expectedCommaInObject)
  | .commaClosed => .error (.malformed .trailingComma)
  | .commaUnfinished => .error (.malformed .endInValue)
  | .wrongKey => .error (.malformed .keyNotText)
  | .brokenKey f => .error (.malformed f)
  | .cut => .error (.malformed .expectedValue)

/-- The first required member that was not seen. -/
def missing? (s : Shape α) (seen : List String) : Option String :=
  (s.members.find? fun m => m.isRequired && !seen.contains m.name).map (·.name)

/-- Puts the items of a list into a record, member by member from a place on. -/
def putItems (s : Shape α) (ending : ListEnd) :
    Nat → α → List (Member α) → List Reading → Except ReadFault α
  | _, record, [], more => do
    endFull more ending
    pure record
  | place, record, m :: ms, item :: more => do
    let record ← m.put record item
    s.putItems ending (place + 1) record ms more
  | place, record, m :: ms, [] => do
    endOpen ending
    match (m :: ms).findIdx? (·.isRequired) with
    | none => pure record
    | some i =>
      throw (.wrongLength (place + i)
        (s.title ++ " with " ++ toString s.members.length ++ " elements"))

/-- Takes a record, in either of its two forms. -/
def take (s : Shape α) : Taker α
  | .object members ending => do
    let (seen, record) ← s.putMembers [] s.blank members
    endObject ending
    match s.missing? seen with
    | some name => throw (.missingField name)
    | none => pure record
  | .list items ending => s.putItems ending 0 s.blank s.members items
  | r => .error (mismatch s.title r)

end Shape

/-! ## Choices -/

/-- One of several named forms of a value. -/
structure Variant (α : Type) where
  name : String
  take : Taker α

/-- Takes a choice: an object whose single key names the form of the value in it. -/
def takeVariant {α : Type} (variants : List (Variant α)) : Taker α
  | .object [] ending =>
    match ending with
    | .unfinished => .error (.malformed .endInObject)
    | .wrongKey => .error (.malformed .keyNotText)
    | .brokenKey f => .error (.malformed f)
    | _ => .error (.malformed .expectedValue)
  | .object ((key, v) :: more) ending =>
    match variants.find? (·.name == key) with
    | none => .error (.unknownVariant key (variants.map (·.name)))
    | some form => do
      let taken ← form.take v
      match more, ending with
      | [], .closed => pure taken
      | [], .unfinished => throw (.malformed .endInObject)
      | _, _ => throw (.malformed .expectedValue)
  | .text s =>
    if variants.any (·.name == s) then .error (.wrongType "unit variant" "newtype variant")
    else .error (.unknownVariant s (variants.map (·.name)))
  | .brokenText f => .error (.malformed f)
  | .absent f => .error (.malformed f)
  | _ => .error (.malformed .expectedValue)

end SchemaTypes.Document
