/-
Upper and lower case letters, and the change of a text's first letter. The
classes and mappings are those of the Unicode standard, so a letter may grow
to several characters when its case changes (`ß` becomes `SS`).

`isUppercase_of_isUpper` and `isLowercase_of_isLower` tie the tables to the
ASCII classes of `Char`.
-/
import SchemaTypes.Text.CaseTable

namespace SchemaTypes.Text

def isUppercase (c : Char) : Bool :=
  holds CaseTable.uppercase c

def isLowercase (c : Char) : Bool :=
  holds CaseTable.lowercase c

/-- The characters that a change of case makes of one character. -/
def mapCase (expansions : List (Nat × List Nat)) (runs : List CaseRun) (c : Char) : List Char :=
  match expansions.lookup c.toNat with
  | some codes => codes.map Char.ofNat
  | none => [(image? runs c).getD c]

def upperOf (c : Char) : List Char :=
  mapCase CaseTable.upperExpansions CaseTable.upperRuns c

def lowerOf (c : Char) : List Char :=
  mapCase CaseTable.lowerExpansions CaseTable.lowerRuns c

def startsUppercase (s : String) : Bool :=
  s.toList.head?.any isUppercase

def startsLowercase (s : String) : Bool :=
  s.toList.head?.any isLowercase

/-- The text with its first character replaced by `f` of it. -/
def mapFirst (f : Char → List Char) (s : String) : String :=
  match s.toList with
  | [] => ""
  | c :: cs => String.ofList (f c ++ cs)

/-- The text with its first character in upper case. -/
def capitalize (s : String) : String :=
  mapFirst upperOf s

/-- The text with its first character in lower case. -/
def uncapitalize (s : String) : String :=
  mapFirst lowerOf s

/-! ## ASCII letters -/

theorem toNat_of_isUpper {c : Char} (h : c.isUpper) : 0x41 ≤ c.toNat ∧ c.toNat ≤ 0x5A := by
  obtain ⟨hlow, hhigh⟩ := of_decide_eq_true h
  exact ⟨UInt32.le_iff_toNat_le.1 hlow, UInt32.le_iff_toNat_le.1 hhigh⟩

theorem toNat_of_isLower {c : Char} (h : c.isLower) : 0x61 ≤ c.toNat ∧ c.toNat ≤ 0x7A := by
  obtain ⟨hlow, hhigh⟩ := Bool.and_eq_true_iff.1 h
  exact ⟨UInt32.le_iff_toNat_le.1 (of_decide_eq_true hlow),
    UInt32.le_iff_toNat_le.1 (of_decide_eq_true hhigh)⟩

theorem isUppercase_of_isUpper {c : Char} (h : c.isUpper) : isUppercase c := by
  refine List.any_eq_true.2 ⟨⟨0x41, 0x5A, 1⟩, .head _, ?_⟩
  simp [CodeRun.contains, toNat_of_isUpper h, Nat.mod_one]

theorem isLowercase_of_isLower {c : Char} (h : c.isLower) : isLowercase c := by
  refine List.any_eq_true.2 ⟨⟨0x61, 0x7A, 1⟩, .head _, ?_⟩
  simp [CodeRun.contains, toNat_of_isLower h, Nat.mod_one]

end SchemaTypes.Text
