/-
The names of a schema, each kept once and numbered in the order of its first
appearance. The empty name has number 0 from the start.

`Agrees` says that the two tables are inverse to each other; every operation
keeps it (`agrees_empty`, `agrees_intern`).
-/
import Std.Data.TreeMap

namespace SchemaTypes

structure NameTable where
  /-- The names by number. -/
  texts : Array String
  /-- The numbers by name. -/
  numbers : Std.TreeMap String Nat

namespace NameTable

def empty : NameTable where
  texts := #[""]
  numbers := (∅ : Std.TreeMap String Nat).insert "" 0

instance : Inhabited NameTable := ⟨empty⟩

/-- The number of a name that is in the table. -/
def number? (t : NameTable) (s : String) : Option Nat :=
  t.numbers[s]?

/-- The number of a name, which is added to the table if it is new. -/
def intern (t : NameTable) (s : String) : Nat × NameTable :=
  match t.number? s with
  | some n => (n, t)
  | none => (t.texts.size, ⟨t.texts.push s, t.numbers.insert s t.texts.size⟩)

/-- The table with a name in it. -/
def insert (t : NameTable) (s : String) : NameTable :=
  (t.intern s).2

/-- The name with a number; the empty name for a number never given out. -/
def text (t : NameTable) (n : Nat) : String :=
  t.texts[n]?.getD ""

def size (t : NameTable) : Nat :=
  t.texts.size

/-- Whether the table holds nothing but the empty name. -/
def isEmpty (t : NameTable) : Bool :=
  t.size == 1

def toList (t : NameTable) : List String :=
  t.texts.toList

/-- One line about the table, for logs. -/
def summary (t : NameTable) : String :=
  "StringInterner(" ++ toString t.size ++ " names)"

/-- A name's number as logs show it. -/
def numberText (n : Nat) : String :=
  "Name(" ++ toString n ++ ")"

/-! ## The two tables agree -/

/-- A name has a number exactly if it stands in the other table at that number. -/
def Agrees (t : NameTable) : Prop :=
  ∀ s n, t.number? s = some n ↔ t.texts[n]? = some s

theorem agrees_empty : empty.Agrees := by
  intro s n
  simp only [number?, empty, Std.TreeMap.getElem?_insert, Std.LawfulEqCmp.compare_eq_iff_eq]
  by_cases h : "" = s
  · subst h
    cases n <;> simp
  · cases n <;> simp [h]

theorem agrees_intern {t : NameTable} (h : t.Agrees) (s : String) : (t.intern s).2.Agrees := by
  unfold intern
  cases hs : t.number? s with
  | some n => exact h
  | none =>
    intro u n
    have hu := h u n
    simp only [number?] at hs hu
    simp only [number?, Std.TreeMap.getElem?_insert, Std.LawfulEqCmp.compare_eq_iff_eq,
      Array.getElem?_push]
    by_cases hsu : s = u
    · subst hsu
      have hn : ∀ k, t.texts[k]? ≠ some s := fun k hk => by
        have := (h s k).2 hk
        simp [number?, hs] at this
      by_cases hsize : n = t.texts.size
      · simp [hsize]
      · have hsize' : ¬t.texts.size = n := fun e => hsize e.symm
        simp [hsize, hsize', hn]
    · by_cases hsize : n = t.texts.size
      · subst hsize
        simp [hsu, hu]
      · simp [hsu, hsize, hu]

end NameTable

end SchemaTypes
