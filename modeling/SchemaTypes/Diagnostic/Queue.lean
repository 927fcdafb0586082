/-
The queue in which a pass over the schema leaves its diagnostics. It may cap
the errors it keeps and drop exact repeats, and it hands the batch back in the
order of the places.

`flush` sorts stably: diagnostics at one place stay in the order in which they
were offered, and those without a place come first.
-/
import SchemaTypes.Diagnostic.Basic

namespace SchemaTypes

structure QueueConfig where
  /-- The errors kept before further ones are only counted; 0 for no limit. -/
  errorLimit : Nat := 0
  /-- Whether a diagnostic equal to one in the queue is dropped. -/
  deduplicate : Bool := true
deriving DecidableEq, Repr

/-- Keeps everything, repeats included. -/
def QueueConfig.unlimited : QueueConfig where
  errorLimit := 0
  deduplicate := false

structure Queue where
  config : QueueConfig := {}
  /-- What is kept, in the order offered. -/
  kept : Array Diagnostic := #[]
  errors : Nat := 0
  warnings : Nat := 0
  /-- The errors that came when the limit was reached. -/
  suppressed : Nat := 0
deriving DecidableEq, Repr

namespace Diagnostic

/-- The ends of the primary place, the key by which a batch is ordered. -/
def place (d : Diagnostic) : Option (Nat × Nat) :=
  d.primarySpan?.map fun s => (s.start, s.stop)

/-- The order of places: none first, then by start, then by end. -/
def placeLe : Option (Nat × Nat) → Option (Nat × Nat) → Bool
  | none, _ => true
  | some _, none => false
  | some (a, b), some (c, d) => a < c || (a == c && b ≤ d)

/-- A batch in the order of its places, stably. -/
def sortByPlace (ds : List Diagnostic) : List Diagnostic :=
  ds.mergeSort fun a b => placeLe a.place b.place

end Diagnostic

namespace Queue

def limitReached (q : Queue) : Bool :=
  q.config.errorLimit != 0 && q.config.errorLimit ≤ q.errors

/-- Whether the queue drops a diagnostic for being equal to one it keeps. -/
def isRepeat (q : Queue) (d : Diagnostic) : Bool :=
  q.config.deduplicate && q.kept.contains d

/-- The queue with a diagnostic kept and counted. -/
def keep (q : Queue) (d : Diagnostic) : Queue :=
  let q := { q with kept := q.kept.push d }
  match d.severity with
  | .error => { q with errors := q.errors + 1 }
  | .warning => { q with warnings := q.warnings + 1 }
  | .note => q

/-- Offers a diagnostic, and tells whether it was kept. The limit is looked at first, and
only for errors. -/
def offer (q : Queue) (d : Diagnostic) : Bool × Queue :=
  if d.isError && q.limitReached then (false, { q with suppressed := q.suppressed + 1 })
  else if q.isRepeat d then (false, q)
  else (true, q.keep d)

def offerAll (q : Queue) (ds : List Diagnostic) : Queue :=
  ds.foldl (fun q d => (q.offer d).2) q

/-- The words of failure, if any error was offered and kept or suppressed. -/
def failure? (q : Queue) : Option String :=
  failureNotice? (q.errors + q.suppressed)

def isEmpty (q : Queue) : Bool :=
  q.kept.isEmpty

/-- Takes the batch, in the order of its places, and leaves the queue as configured. -/
def flush (q : Queue) : List Diagnostic × Queue :=
  (Diagnostic.sortByPlace q.kept.toList, { config := q.config })

end Queue

end SchemaTypes
