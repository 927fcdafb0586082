/-
The numbers of JSON texts. A number without fraction and exponent is an
integer if it fits in 64 bits; every other one is a floating-point number.

A floating-point number is computed from the first digits, as many as fit in
64 bits, and a power of ten, by one multiplication or division; it need not be
the nearest one to what is written. It only ever shows in messages, where it
is written with the fewest digits that read back.
-/
import SchemaTypes.Decimal.Shortest
import SchemaTypes.Json.Fault

namespace SchemaTypes.Json

inductive Number where
  | natural (n : Nat)
  /-- The integer below zero with this magnitude. -/
  | negative (magnitude : Nat)
  | floating (x : Float)

namespace Number

/-! ## Reading -/

/-- The largest 64-bit natural number. -/
def largestWord : Nat := 0xFFFFFFFFFFFFFFFF

/-- The largest exponent that is read, in 32 bits with a sign. -/
def largestExponent : Nat := 0x7FFFFFFF

/-- The magnitude of the lowest 64-bit integer. -/
def lowestMagnitude : Nat := 0x8000000000000000

def digitValue (c : Char) : Nat :=
  c.toNat - 48

def startsDigit (cs : List Char) : Bool :=
  cs.head?.any Char.isDigit

def dropDigits (cs : List Char) : List Char :=
  cs.dropWhile Char.isDigit

/-- Reads on from a number digit by digit, as long as it stays within a limit. Answers the
number, how many digits went into it, and the rest. -/
def takeDigits (limit : Nat) : Nat → List Char → Nat × Nat × List Char
  | n, [] => (n, 0, [])
  | n, c :: cs =>
    if c.isDigit ∧ n * 10 + digitValue c ≤ limit then
      let (result, count, rest) := takeDigits limit (n * 10 + digitValue c) cs
      (result, count + 1, rest)
    else (n, 0, c :: cs)

def powerOfTen (e : Nat) : Float :=
  Float.ofScientific 1 false e

/-- A float scaled by a power of ten; powers beyond the range are taken in steps. -/
def scaleFloat (x : Float) (e : Int) : Except Fault Float :=
  if e.natAbs ≤ 308 then
    if 0 ≤ e then
      let y := x * powerOfTen e.natAbs
      if y.isInf then .error .numberOutOfRange else .ok y
    else .ok (x / powerOfTen e.natAbs)
  else if x == 0 then .ok x
  else if 0 ≤ e then .error .numberOutOfRange
  else scaleFloat (x / powerOfTen 308) (e + 308)
termination_by e.natAbs

/-- The float with a sign, the first digits and an exponent of ten. -/
def floatOf (isPositive : Bool) (significand : Nat) (e : Int) : Except Fault Number := do
  let x ← scaleFloat (UInt64.ofNat significand).toFloat e
  pure (.floating (if isPositive then x else -x))

/-- The exponent mark, by which the exponent begins. -/
def isExponentMark (c : Char) : Bool :=
  c == 'e' || c == 'E'

/-- A number from its exponent's sign and digits on. -/
def readExponentDigits (isPositive : Bool) (significand : Nat) (start : Int)
    (exponentPositive : Bool) (cs : List Char) : Except Fault (Number × List Char) :=
  match cs with
  | [] => .error .endInValue
  | c :: _ =>
    if !c.isDigit then .error .invalidNumber
    else
      let (e, _, rest) := takeDigits largestExponent 0 cs
      if startsDigit rest then
        if significand ≠ 0 ∧ exponentPositive then .error .numberOutOfRange
        else .ok (.floating (if isPositive then 0.0 else -0.0), dropDigits rest)
      else do
        let n ← floatOf isPositive significand (if exponentPositive then start + e else start - e)
        pure (n, rest)

/-- A number from after its exponent mark on. -/
def readExponent (isPositive : Bool) (significand : Nat) (start : Int) :
    List Char → Except Fault (Number × List Char)
  | '+' :: cs => readExponentDigits isPositive significand start true cs
  | '-' :: cs => readExponentDigits isPositive significand start false cs
  | cs => readExponentDigits isPositive significand start true cs

/-- The end of a floating-point number: an exponent, or none. -/
def finishFloat (isPositive : Bool) (significand : Nat) (e : Int) (cs : List Char) :
    Except Fault (Number × List Char) :=
  match cs with
  | c :: rest =>
    if isExponentMark c then readExponent isPositive significand e rest
    else do
      let n ← floatOf isPositive significand e
      pure (n, cs)
  | [] => do
    let n ← floatOf isPositive significand e
    pure (n, [])

/-- A number from after its point on. Digits that no longer fit are passed over. -/
def readFraction (isPositive : Bool) (significand : Nat) (e : Int) (cs : List Char) :
    Except Fault (Number × List Char) :=
  let (significand, count, rest) := takeDigits largestWord significand cs
  if startsDigit rest then finishFloat isPositive significand (e - count) (dropDigits rest)
  else if count = 0 then .error (if rest.isEmpty then .endInValue else .invalidNumber)
  else finishFloat isPositive significand (e - count) rest

/-- An integer as a number. Zero below zero, and what is below the 64-bit integers, are
floats. -/
def ofInteger (isPositive : Bool) (n : Nat) : Number :=
  if isPositive then .natural n
  else if n = 0 ∨ lowestMagnitude < n then .floating (-(UInt64.ofNat n).toFloat)
  else .negative n

/-- A number from after its whole part on, with the power of ten that the whole part lacks. -/
def readAfterWhole (isPositive : Bool) (significand : Nat) (e : Int) (isWhole : Bool)
    (cs : List Char) : Except Fault (Number × List Char) :=
  match cs with
  | '.' :: rest => readFraction isPositive significand e rest
  | _ =>
    if isWhole ∧ !cs.head?.any isExponentMark then .ok (ofInteger isPositive significand, cs)
    else finishFloat isPositive significand e cs

/-- A number from after its sign on. A zero is not followed by digits. -/
def read (isPositive : Bool) (cs : List Char) : Except Fault (Number × List Char) :=
  match cs with
  | [] => .error .endInValue
  | '0' :: rest =>
    if startsDigit rest then .error .invalidNumber
    else readAfterWhole isPositive 0 0 true rest
  | c :: _ =>
    if !c.isDigit then .error .invalidNumber
    else
      let (significand, _, rest) := takeDigits largestWord 0 cs
      let left := rest.takeWhile Char.isDigit
      readAfterWhole isPositive significand left.length left.isEmpty (dropDigits rest)

/-! ## Messages -/

/-- Which decimal exponents of the first digit are written without an exponent. -/
def isPlain (first : Int) : Bool :=
  -5 ≤ first && first ≤ 15

/-- An exponent with its sign. -/
def exponentText (e : Int) : String :=
  (if e < 0 then "e-" else "e+") ++ toString e.natAbs

/-- Digits with the point behind the first `point` of them, or behind zeros. -/
def plainText (digits : List Char) (point : Int) : String :=
  if point ≤ 0 then
    "0." ++ String.ofList (List.replicate point.natAbs '0' ++ digits)
  else
    let n := point.toNat
    if digits.length ≤ n then
      String.ofList (digits ++ List.replicate (n - digits.length) '0') ++ ".0"
    else String.ofList (digits.take n) ++ "." ++ String.ofList (digits.drop n)

/-- Digits with the point behind the first one, and an exponent. -/
def scientificText (digits : List Char) (first : Int) : String :=
  match digits with
  | [] => exponentText first
  | [d] => String.ofList [d] ++ exponentText first
  | d :: ds => String.ofList [d] ++ "." ++ String.ofList ds ++ exponentText first

/-- A finite float, with a point or an exponent always. -/
def floatText (x : Float) : String :=
  let bits := x.toBits.toNat
  let sign := if bits < Decimal.signBit then "" else "-"
  let magnitude := Decimal.Binary.ofBits (bits % Decimal.signBit)
  if magnitude.mantissa = 0 then sign ++ "0.0"
  else
    let d := Decimal.shortest magnitude
    let digits := (toString d.digits).toList
    sign ++ (if isPlain (d.point - 1) then plainText digits d.point
      else scientificText digits (d.point - 1))

end Number

end SchemaTypes.Json
