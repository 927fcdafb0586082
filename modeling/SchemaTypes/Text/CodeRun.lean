/-
Runs of code points, the form in which the tables of the Unicode standard are
kept here. A run with step 2 covers the alternating scripts, where an upper
case letter is followed by its lower case form.
-/
namespace SchemaTypes.Text

/-- The code points `first`, `first + step`, ..., up to `last`. -/
structure CodeRun where
  first : Nat
  last : Nat
  step : Nat

/-- A run whose members map to the run of the same step that starts at `target`. -/
structure CaseRun where
  source : CodeRun
  target : Nat

namespace CodeRun

def contains (r : CodeRun) (n : Nat) : Bool :=
  r.first ≤ n && n ≤ r.last && (n - r.first) % r.step == 0

end CodeRun

/-- Whether some run of a table holds the character. -/
def holds (table : List CodeRun) (c : Char) : Bool :=
  table.any (·.contains c.toNat)

/-- The image of a character under a table of mapped runs, if a run holds it. -/
def image? (table : List CaseRun) (c : Char) : Option Char :=
  (table.find? (·.source.contains c.toNat)).map fun r =>
    Char.ofNat (c.toNat - r.source.first + r.target)

end SchemaTypes.Text
