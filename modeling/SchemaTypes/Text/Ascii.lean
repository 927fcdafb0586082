/-
Comparison of texts that ignores the case of the ASCII letters and of no
others: the rule by which keywords, type names and diagnostic codes are read.

Main statement: `sameLetters_iff`, the comparison is equality after folding.
-/
namespace SchemaTypes.Text

/-- The characters of a text with its ASCII letters in lower case. -/
def fold (s : String) : List Char :=
  s.toList.map Char.toLower

/-- Whether two texts agree up to the case of ASCII letters. -/
def sameLetters (s t : String) : Bool :=
  fold s == fold t

theorem sameLetters_iff {s t : String} : sameLetters s t = true ↔ fold s = fold t := by
  simp [sameLetters]

end SchemaTypes.Text
