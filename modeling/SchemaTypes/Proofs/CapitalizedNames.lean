/-
The capitalized spelling of an elementary type's name.

Only a name in the letters of the table denotes a kind, so the first character
of one that starts with a lower case letter is a letter of the alphabet. Its
counterpart is a single letter again and is the same when case is ignored:
capitalized, the name denotes the same kind, and it starts with an upper case
letter, under which no primitive is declared.
-/
import SchemaTypes.Proofs.ValidatedTexts

namespace SchemaTypes

namespace Text

/-! ## Letters of the alphabet -/

variable {c : Char} {cs : List Char} {s t : String}

/-- What holds of 26 characters in a row holds of each of them. -/
theorem forall_letters (P : Char → Prop) (first : Nat)
    (h : ∀ n ∈ List.range' first 26, P (Char.ofNat n)) (hlow : first ≤ c.toNat)
    (hhigh : c.toNat < first + 26) : P c := by
  rw [← Char.ofNat_toNat c]
  exact h _ (List.mem_range'_1.2 ⟨hlow, hhigh⟩)

theorem isLowercase_of_isUpper (h : c.isUpper) : isLowercase c = false := by
  obtain ⟨hlow, hhigh⟩ := toNat_of_isUpper h
  exact forall_letters (isLowercase · = false) 0x41 (by decide +kernel) hlow (by omega)

theorem upperOf_of_isLower (h : c.isLower) :
    upperOf c = [c.toUpper] ∧ c.toUpper.isUpper ∧ c.toUpper.toLower = c.toLower := by
  obtain ⟨hlow, hhigh⟩ := toNat_of_isLower h
  exact forall_letters
    (fun c => upperOf c = [c.toUpper] ∧ c.toUpper.isUpper ∧ c.toUpper.toLower = c.toLower) 0x61
    (by decide +kernel) hlow (by omega)

theorem isUpper_or_isLower (h : c.toLower.isLower) : c.isUpper ∨ c.isLower := by
  unfold Char.toLower at h
  split at h
  · next hupper => exact .inl (decide_eq_true hupper)
  · exact .inr h

/-- A text that starts with a lower case letter of the alphabet. -/
def StartsLower (s : String) : Prop :=
  ∃ c cs, s.toList = c :: cs ∧ c.isLower

namespace StartsLower

theorem toList_capitalize (hs : s.toList = c :: cs) (hc : c.isLower) :
    (capitalize s).toList = c.toUpper :: cs := by
  simp [capitalize, mapFirst, hs, (upperOf_of_isLower hc).1]

variable (h : StartsLower s)
include h

theorem fold_capitalize : fold (capitalize s) = fold s := by
  obtain ⟨c, cs, hs, hc⟩ := h
  simp [fold, toList_capitalize hs hc, hs, (upperOf_of_isLower hc).2.2]

theorem startsUppercase_capitalize : startsUppercase (capitalize s) := by
  obtain ⟨c, cs, hs, hc⟩ := h
  simpa [startsUppercase, toList_capitalize hs hc] using
    isUppercase_of_isUpper (upperOf_of_isLower hc).2.1

theorem startsLowercase_capitalize : startsLowercase (capitalize s) = false := by
  obtain ⟨c, cs, hs, hc⟩ := h
  simpa [startsLowercase, toList_capitalize hs hc] using
    isLowercase_of_isUpper (upperOf_of_isLower hc).2.1

end StartsLower

end Text

/-! ## Names of elementary types -/

namespace Kind

variable {name name' : String}

theorem ofName?_congr (h : Text.fold name = Text.fold name') : ofName? name = ofName? name' := by
  simp only [ofName?, Text.sameLetters, h]

theorem startsLower_of_mem_table {entry : String × Kind} (h : entry ∈ table) :
    entry.1.toList.head?.any Char.isLower := by
  revert entry
  decide

/-- Only letters of the alphabet come first in the names that denote a kind. -/
theorem startsLower_of_ofName? {k : Kind} (h : ofName? name = some k)
    (hlower : Text.startsLowercase name) : Text.StartsLower name := by
  obtain ⟨key, hmem, hfold⟩ := ofName?_eq_some_iff.1 h
  have hkey := startsLower_of_mem_table hmem
  rw [← hfold, Text.fold] at hkey
  cases hname : name.toList with
  | nil => simp [hname] at hkey
  | cons c cs =>
    have hc : c.toLower.isLower := by simpa [hname] using hkey
    refine ⟨c, cs, hname, (Text.isUpper_or_isLower hc).resolve_left fun hupper => ?_⟩
    simp [Text.startsLowercase, hname, Text.isLowercase_of_isUpper hupper] at hlower

end Kind

namespace Spelling

variable {name : String}

theorem startsUppercase_boxedName (h : Text.startsUppercase name) :
    Text.startsUppercase (boxedName name) := by
  unfold boxedName
  split
  · decide
  · decide
  · exact h

theorem isPrimitive_of_startsUppercase (h : Text.startsUppercase name) :
    isPrimitive (canonical name).name = false := by
  have hnone : ∀ n ∈ primitiveNames, ¬Text.startsUppercase n := by decide +kernel
  have hupper : Text.startsUppercase (canonical name).name := by
    simpa [canonical, h] using startsUppercase_boxedName h
  rw [Bool.eq_false_iff]
  exact fun hmem => hnone _ (List.contains_iff_mem.1 hmem) hupper

end Spelling

end SchemaTypes
