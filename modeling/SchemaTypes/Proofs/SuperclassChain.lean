/-
The superclasses of a class as a list: at most as many as there are classes,
and with all that the class extends among them, though the walk does not look
whether it has been at a class before.

Where the `extends` links come to an end, they do so before the walk is cut:
the classes on the way are all different, so they are fewer than there are.
Then the list is that way, and nothing else (`Closed.superclasses_of_end`).
Where the links run in a circle, they pass all that they lead to within as
many steps as there are classes, which is `Closed.superclasses`.
-/
import SchemaTypes.Proofs.Ancestry

namespace SchemaTypes.Schema

variable {s : Schema} {c a root : ClassId} {xs : List ClassId} {limit : Nat}

/-! ## Walks -/

theorem length_lineage_le : ∀ {limit : Nat} {start : Option ClassId} {found : List ClassId},
    s.lineage limit start = some found → found.length ≤ limit
  | 0, _, found, h => by
    obtain rfl : [] = found := by simpa [Schema.lineage] using h
    exact Nat.le_refl 0
  | limit + 1, none, found, h => by
    obtain rfl : [] = found := by simpa [Schema.lineage] using h
    exact Nat.zero_le _
  | limit + 1, some c, found, h => by
    simp only [Schema.lineage, Option.bind_eq_bind, Option.bind_eq_some_iff] at h
    obtain ⟨d, -, rest, hrest, hfound⟩ := h
    obtain rfl := Option.some.inj hfound
    exact Nat.succ_le_succ (length_lineage_le hrest)

theorem length_superclasses_le {found : List ClassId} (h : s.superclasses c = some found) :
    found.length ≤ s.classes.size :=
  length_lineage_le (superclasses_eq_some_iff.1 h).2

theorem lineage_none (limit : Nat) : s.lineage limit none = some [] := by
  cases limit <;> rfl

/-- A walk that is long enough for the way to the end of the links is that way. -/
theorem lineage_of_end (way : Path s.parent? c xs root) (hroot : root ∈ s.classIds)
    (hend : s.parent? root = none) (hlt : xs.length < limit) :
    s.lineage limit (some c) = some (xs ++ [root]) := by
  induction way generalizing limit with
  | here root =>
    obtain ⟨d, hd⟩ := mem_classIds.1 hroot
    have hparent : d.parent = none := by simpa [parent?, hd] using hend
    obtain ⟨limit, rfl⟩ := Nat.exists_eq_succ_of_ne_zero (Nat.ne_of_gt hlt)
    simp [Schema.lineage, hd, hparent, lineage_none]
  | @step c b root xs link rest ih =>
    obtain ⟨d, hd, hparent⟩ := parent?_eq_some.1 link
    obtain ⟨limit, rfl⟩ := Nat.exists_eq_succ_of_ne_zero (Nat.ne_of_gt (Nat.zero_lt_of_lt hlt))
    have hrest := ih hroot hend (Nat.lt_of_succ_lt_succ hlt)
    simp [Schema.lineage, hd, hparent, hrest]

/-! ## Classes without a circle above them -/

/-- Neither a class nor one above it extends itself. -/
def Acyclic (s : Schema) (c : ClassId) : Prop :=
  ∀ a xs, Path s.parent? c xs a → ¬s.Extends a a

/-- There is no circle exactly where the links come to an end. -/
theorem acyclic_iff :
    s.Acyclic c ↔ ∃ xs root, Path s.parent? c xs root ∧ s.parent? root = none := by
  constructor
  · intro h
    rcases exists_end_or_return (fun _ _ => mem_classIds_of_parent?) c with
      hend | ⟨xs, z, way, -, again⟩
    · exact hend
    · obtain ⟨ys, zs, -, htoz, hback⟩ := way.split again
      cases hback with
      | step link rest => exact (h z ys htoz ⟨_, zs, link, rest⟩).elim
  · rintro ⟨xs, root, way, hend⟩ a ys htoa ⟨p, zs, link, hback⟩
    exact way.no_return_of_end hend (htoa.append (.step link hback)) (by simp)

theorem Closed.superclasses_of_end (h : s.Closed) (hc : c ∈ s.classIds)
    (way : Path s.parent? c xs root) (hend : s.parent? root = none) :
    ∃ found, s.superclasses c = some found ∧ c :: found = xs ++ [root] := by
  have hroot := h.mem_classIds_of_path hc way
  cases way with
  | here =>
    exact ⟨[], superclasses_eq_some_iff.2 ⟨hc, hend ▸ lineage_none _⟩, rfl⟩
  | @step _ p _ xs link rest =>
    -- The way from the parent on has no class twice, so the cut is beyond its end.
    have hlt := rest.length_lt (fun _ _ => mem_classIds_of_parent?) hroot (rest.nodup_of_end hend)
    have hwalk := lineage_of_end rest hroot hend (by simpa [classIds] using hlt)
    exact ⟨xs ++ [root], superclasses_eq_some_iff.2 ⟨hc, link ▸ hwalk⟩, rfl⟩

/-- **The cut leaves out no superclass.** There are at most as many as there are classes, and they
are the classes that a class extends, circles or not. Without a circle they are the way to the
end of the links, the nearest first, and all different from each other and from the class. -/
theorem superclasses_unabridged (h : s.WellFormed) (hc : c ∈ s.classIds) :
    ∃ found, s.superclasses c = some found ∧ found.length ≤ s.classes.size ∧
      (∀ a, a ∈ found ↔ s.Extends c a) ∧
      (s.Acyclic c → (c :: found).Nodup ∧ ∃ xs root, Path s.parent? c xs root ∧
        s.parent? root = none ∧ c :: found = xs ++ [root]) := by
  obtain ⟨found, hfound, hmem⟩ := h.closed.superclasses hc
  refine ⟨found, hfound, length_superclasses_le hfound, hmem, fun hacyclic => ?_⟩
  obtain ⟨xs, root, way, hend⟩ := acyclic_iff.1 hacyclic
  obtain ⟨found', hfound', heq⟩ := h.closed.superclasses_of_end hc way hend
  obtain rfl := Option.some.inj (hfound.symm.trans hfound')
  exact ⟨heq ▸ way.nodup_of_end hend, xs, root, way, hend, heq⟩

/-! ## A chain of all classes -/

/-- In package `p` the class `C` extends `B`, and `B` extends `A`. -/
def ladderCalls : List Draft.Call :=
  [.addPackage "p", .addClass (some ⟨0⟩) "A", .addClass (some ⟨0⟩) "B",
   .addClass (some ⟨0⟩) "C", .setParent ⟨1⟩ ⟨0⟩, .setParent ⟨2⟩ ⟨1⟩]

def ladder : Schema where
  names := ["p", "A", "B", "C"].foldl NameTable.insert .empty
  packages := #[{ name := "p" }]
  classes := #[{ name := "A", package := some ⟨0⟩ },
    { name := "B", package := some ⟨0⟩, parent := some ⟨0⟩ },
    { name := "C", package := some ⟨0⟩, parent := some ⟨1⟩ }]
  fields := #[]
  typedefs := #[]
  enums := #[]
  dataTypes := #[]

theorem ladder_wellFormed : ladder.WellFormed where
  drafted := ⟨ladderCalls, _, rfl, rfl⟩
  closed := by decide

/-- From `C` the links pass every class, and the last one is not left out. -/
theorem superclasses_unabridged_ladder : ladder.WellFormed ∧ ⟨2⟩ ∈ ladder.classIds ∧
    ladder.Acyclic ⟨2⟩ ∧ ∃ found, ladder.superclasses ⟨2⟩ = some found ∧ found.length ≤ 3 ∧
      (⟨2⟩ :: found).Nodup ∧ ⟨0⟩ ∈ found := by
  have way : Path ladder.parent? ⟨2⟩ [⟨2⟩, ⟨1⟩] ⟨0⟩ := .step rfl (.step rfl (.here _))
  have hacyclic := acyclic_iff.2 ⟨_, _, way, rfl⟩
  have hc : ⟨2⟩ ∈ ladder.classIds := by decide
  obtain ⟨found, hfound, hlength, hmem, hchain⟩ := superclasses_unabridged ladder_wellFormed hc
  exact ⟨ladder_wellFormed, hc, hacyclic, found, hfound, hlength, (hchain hacyclic).1,
    (hmem _).2 ⟨⟨1⟩, [⟨1⟩], rfl, .step rfl (.here _)⟩⟩

end SchemaTypes.Schema
