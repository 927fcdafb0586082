/-
Places in the schema source, as byte ranges. A span only lets a diagnostic
point back at a declaration; no text is ever cut by it, so its end may lie
before its start.
-/
namespace SchemaTypes

structure Span where
  start : Nat
  stop : Nat
deriving DecidableEq, Repr

namespace Span

/-- The place of a declaration that came without one. -/
def absent : Span := ⟨0, 0⟩

/-- The length in bytes, zero for a span that ends before it starts. -/
def length (s : Span) : Nat :=
  s.stop - s.start

def isEmpty (s : Span) : Bool :=
  s.length == 0

theorem isEmpty_iff {s : Span} : s.isEmpty ↔ s.stop ≤ s.start := by
  simp [isEmpty, length, Nat.sub_eq_zero_iff_le]

def isAbsent (s : Span) : Bool :=
  s == absent

/-- Both ends with two dots between them. -/
def text (s : Span) : String :=
  toString s.start ++ ".." ++ toString s.stop

end Span

end SchemaTypes
