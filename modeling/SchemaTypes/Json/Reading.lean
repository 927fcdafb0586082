/-
Reading of JSON texts. The result is a tree that keeps the first fault at the
place where it was met, with everything before it. Whoever takes the tree
apart in the order of the text meets a fault of form and a fault of content in
the order in which they stand, and reports the earlier one.

The reading descends by numbered steps. Between two steps that start a value at
least one character is consumed, and at most one step lies between them, so
twice the length of the text bounds their number; `Reading.ofText` supplies
that bound.
-/
import SchemaTypes.Json.Number
import SchemaTypes.Json.Text

namespace SchemaTypes.Json

/-- How a list ends after the items that were read. -/
inductive ListEnd where
  /-- With its bracket. -/
  | closed
  /-- With the text, where a comma or the bracket should stand. -/
  | unfinished
  /-- Something else stands where a comma or the bracket should. -/
  | noComma
  /-- With a comma before its bracket. -/
  | commaClosed
  /-- With the text, after a comma. -/
  | commaUnfinished
  /-- The last item has a fault. -/
  | cut
deriving DecidableEq, Repr

/-- How an object ends after the members that were read. -/
inductive ObjectEnd where
  /-- With its brace. -/
  | closed
  /-- With the text, where a comma or the brace should stand. -/
  | unfinished
  /-- Something else stands where a comma or the brace should. -/
  | noComma
  /-- With a comma before its brace. -/
  | commaClosed
  /-- With the text, after a comma. -/
  | commaUnfinished
  /-- What stands where a key should is no text. -/
  | wrongKey
  /-- A key is badly written. -/
  | brokenKey (f : Fault)
  /-- The last member has a fault. -/
  | cut
deriving DecidableEq, Repr

/-- A JSON text, up to its first fault. -/
inductive Reading where
  | null
  | bool (b : Bool)
  | number (n : Number)
  | text (s : String)
  | list (items : List Reading) (ending : ListEnd)
  | object (members : List (String × Reading)) (ending : ObjectEnd)
  /-- A word or number that is badly written. -/
  | brokenWord (f : Fault)
  /-- A text that is badly written. -/
  | brokenText (f : Fault)
  /-- No value begins where one should. -/
  | absent (f : Fault)

namespace Reading

/-- White space between the parts of a text. -/
def isBlank (c : Char) : Bool :=
  c == ' ' || c == '\n' || c == '\t' || c == '\r'

def dropBlank (cs : List Char) : List Char :=
  cs.dropWhile isBlank

/-- What is left of the text after a reading, or nothing if it met a fault. -/
abbrev Rest := Option (List Char)

/-- The rest of a word whose first letter has been read. -/
def word (value : Reading) : List Char → List Char → Reading × Rest
  | [], cs => (value, some cs)
  | _ :: _, [] => (.brokenWord .endInValue, none)
  | w :: ws, c :: cs => if c = w then word value ws cs else (.brokenWord .expectedWord, none)

def ofNumber : Except Fault (Number × List Char) → Reading × Rest
  | .ok (n, rest) => (.number n, some rest)
  | .error f => (.brokenWord f, none)

def ofTextLiteral : Except Fault (String × List Char) → Reading × Rest
  | .ok (s, rest) => (.text s, some rest)
  | .error f => (.brokenText f, none)

mutual

/-- Reads one value, in at most as many steps as given. -/
def value : Nat → List Char → Reading × Rest
  | 0, _ => (.absent .expectedValue, none)
  | steps + 1, cs =>
    match dropBlank cs with
    | [] => (.absent .endInValue, none)
    | c :: rest =>
      if c = 'n' then word .null ['u', 'l', 'l'] rest
      else if c = 't' then word (.bool true) ['r', 'u', 'e'] rest
      else if c = 'f' then word (.bool false) ['a', 'l', 's', 'e'] rest
      else if c = '-' then ofNumber (Number.read false rest)
      else if c.isDigit then ofNumber (Number.read true (c :: rest))
      else if c = '\"' then ofTextLiteral (readText [] rest)
      else if c = '[' then
        match dropBlank rest with
        | [] => (.list [] .unfinished, none)
        | d :: after =>
          if d = ']' then (.list [] .closed, some after)
          else
            let (found, ending, left) := items steps (d :: after)
            (.list found ending, left)
      else if c = '\x7b' then
        match dropBlank rest with
        | [] => (.object [] .unfinished, none)
        | d :: after =>
          if d = '\x7d' then (.object [] .closed, some after)
          else if d = '\"' then
            let (found, ending, left) := members steps after
            (.object found ending, left)
          else (.object [] .wrongKey, none)
      else (.absent .expectedValue, none)

/-- Reads the items of a list from the start of one on. -/
def items : Nat → List Char → List Reading × ListEnd × Rest
  | 0, _ => ([], .cut, none)
  | steps + 1, cs =>
    match value steps cs with
    | (item, none) => ([item], .cut, none)
    | (item, some rest) =>
      match dropBlank rest with
      | [] => ([item], .unfinished, none)
      | c :: after =>
        if c = ']' then ([item], .closed, some after)
        else if c = ',' then
          match dropBlank after with
          | [] => ([item], .commaUnfinished, none)
          | d :: next =>
            if d = ']' then ([item], .commaClosed, none)
            else
              let (found, ending, left) := items steps (d :: next)
              (item :: found, ending, left)
        else ([item], .noComma, none)

/-- Reads the members of an object from after the opening quote of a key on. -/
def members : Nat → List Char → List (String × Reading) × ObjectEnd × Rest
  | 0, _ => ([], .cut, none)
  | steps + 1, cs =>
    match readText [] cs with
    | .error f => ([], .brokenKey f, none)
    | .ok (key, rest) =>
      match dropBlank rest with
      | [] => ([(key, .absent .endInObject)], .cut, none)
      | c :: rest =>
        if c = ':' then
          match value steps rest with
          | (v, none) => ([(key, v)], .cut, none)
          | (v, some rest) =>
            match dropBlank rest with
            | [] => ([(key, v)], .unfinished, none)
            | c :: after =>
              if c = '\x7d' then ([(key, v)], .closed, some after)
              else if c = ',' then
                match dropBlank after with
                | [] => ([(key, v)], .commaUnfinished, none)
                | d :: next =>
                  if d = '\"' then
                    let (found, ending, left) := members steps next
                    ((key, v) :: found, ending, left)
                  else if d = '\x7d' then ([(key, v)], .commaClosed, none)
                  else ([(key, v)], .wrongKey, none)
              else ([(key, v)], .noComma, none)
        else ([(key, .absent .expectedColon)], .cut, none)

end

/-- The value at the start of a text, and what follows it. -/
def ofText (s : String) : Reading × Rest :=
  let cs := s.toList
  value (2 * cs.length + 1) cs

/-- Whether nothing but white space follows a value. -/
def isWhole (rest : Rest) : Bool :=
  rest.any (·.all isBlank)

end Reading

end SchemaTypes.Json
