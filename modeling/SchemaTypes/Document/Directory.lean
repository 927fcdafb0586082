/-
References and what they lead to. A reference is the name of a package and a
simple name with a dot between, cut at its last dot, or a simple name alone,
which stands for one of the package where it is written. A directory finds the
handle of a declaration by both names.
-/
import Std.Data.TreeMap

namespace SchemaTypes

/-- The name of a package and a simple name in it. -/
structure QualifiedName where
  package : String
  name : String
deriving DecidableEq, Repr

namespace QualifiedName

def order (a b : QualifiedName) : Ordering :=
  (compare a.package b.package).then (compare a.name b.name)

/-- The parts of a text before and after its last dot. -/
def cutAtLastDot : List Char → Option (List Char × List Char)
  | [] => none
  | c :: cs =>
    match cutAtLastDot cs with
    | some (before, after) => some (c :: before, after)
    | none => if c = '.' then some ([], cs) else none

/-- The names that a reference gives, when it is written in a certain package. -/
def ofReference (current reference : String) : QualifiedName :=
  match cutAtLastDot reference.toList with
  | some (package, name) => ⟨String.ofList package, String.ofList name⟩
  | none => ⟨current, reference⟩

theorem order_eq_iff {a b : QualifiedName} : order a b = .eq ↔ a = b := by
  obtain ⟨p, n⟩ := a
  obtain ⟨q, m⟩ := b
  simp [order, Ordering.then_eq_eq, Std.LawfulEqCmp.compare_eq_iff_eq]

instance : Std.TransCmp order :=
  inferInstanceAs (Std.TransCmp (compareLex (compareOn package) (compareOn name)))

end QualifiedName

/-- The handles of declarations of one kind. -/
structure Directory (α : Type) where
  entries : Std.TreeMap QualifiedName α QualifiedName.order := {}

namespace Directory

variable {α : Type}

def empty : Directory α := {}

def get? (d : Directory α) (key : QualifiedName) : Option α :=
  d.entries[key]?

def insert (d : Directory α) (key : QualifiedName) (value : α) : Directory α :=
  ⟨d.entries.insert key value⟩

@[simp]
theorem get?_empty (key : QualifiedName) : (empty : Directory α).get? key = none := by
  simp [get?, empty]

@[simp]
theorem get?_insert (d : Directory α) (key other : QualifiedName) (value : α) :
    (d.insert key value).get? other = if key = other then some value else d.get? other := by
  simp [get?, insert, Std.TreeMap.getElem?_insert, QualifiedName.order_eq_iff]

end Directory

end SchemaTypes
