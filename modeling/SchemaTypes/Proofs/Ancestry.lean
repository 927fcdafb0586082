/-
The classes that a class extends, directly and through others.

The walk along the `extends` links is cut after as many classes as the schema
has. Whatever can be reached is reached without passing a class twice, so the
cut leaves nothing out, not even where the links run in a circle
(`Closed.superclasses`).
-/
import SchemaTypes.Proofs.WellFormed
import SchemaTypes.Proofs.LinkPath
import SchemaTypes.Schema.Containment

namespace SchemaTypes.Schema

/-- The class that a class names as its parent. -/
def parent? (s : Schema) (c : ClassId) : Option ClassId := do
  let d ← s.class? c
  d.parent

/-- Some `extends` links, at least one of them, lead from a class to another. -/
def Extends (s : Schema) (c a : ClassId) : Prop :=
  ∃ parent xs, s.parent? c = some parent ∧ Path s.parent? parent xs a

variable {s : Schema} {c a parent : ClassId}

theorem parent?_eq_some :
    s.parent? c = some parent ↔ ∃ d, s.class? c = some d ∧ d.parent = some parent := by
  simp [parent?, Option.bind_eq_some_iff]

theorem mem_classIds_of_parent? (h : s.parent? c = some parent) : c ∈ s.classIds := by
  obtain ⟨d, hd, -⟩ := parent?_eq_some.1 h
  exact mem_classIds.2 ⟨d, hd⟩

theorem isChain_lineage : ∀ {limit : Nat} {c : ClassId} {found : List ClassId},
    s.lineage limit (s.parent? c) = some found →
      List.IsChain (fun c a => s.parent? c = some a) (c :: found)
  | 0, c, found, h => by
    obtain rfl : [] = found := by simpa [Schema.lineage] using h
    exact .singleton c
  | limit + 1, c, found, h => by
    cases hp : s.parent? c with
    | none =>
      obtain rfl : [] = found := by simpa [Schema.lineage, hp] using h
      exact .singleton c
    | some p =>
      simp only [hp, Schema.lineage, Option.bind_eq_bind, Option.bind_eq_some_iff] at h
      obtain ⟨d, hd, rest, hrest, hfound⟩ := h
      obtain rfl := Option.some.inj hfound
      have hparent : s.parent? p = d.parent := by simp [parent?, hd]
      exact .cons_cons hp (isChain_lineage (hparent ▸ hrest))

theorem superclasses_eq_some_iff {found : List ClassId} : s.superclasses c = some found ↔
    c ∈ s.classIds ∧ s.lineage s.classes.size (s.parent? c) = some found := by
  have hparent {d : ClassDecl} (hd : s.class? c = some d) : s.parent? c = d.parent := by
    simp [parent?, hd]
  simp only [Schema.superclasses, mem_classIds, Option.bind_eq_bind, Option.bind_eq_some_iff]
  constructor
  · rintro ⟨d, hd, hfound⟩
    exact ⟨⟨d, hd⟩, hparent hd ▸ hfound⟩
  · rintro ⟨⟨d, hd⟩, hfound⟩
    exact ⟨d, hd, hparent hd ▸ hfound⟩

theorem isChain_superclasses {found : List ClassId} (h : s.superclasses c = some found) :
    List.IsChain (fun c a => s.parent? c = some a) (c :: found) :=
  isChain_lineage (superclasses_eq_some_iff.1 h).2

namespace Closed

/-- The links of a closed schema do not lead out of its tables. -/
theorem mem_classIds_of_path (h : s.Closed) {xs : List ClassId} (hc : c ∈ s.classIds)
    (hpath : Path s.parent? c xs a) : a ∈ s.classIds := by
  induction hpath with
  | here => exact hc
  | step link _ ih =>
    obtain ⟨d, hd, hparent⟩ := parent?_eq_some.1 link
    exact ih (mem_classIds.2 (h.class_parent hd hparent))

theorem mem_classIds_of_extends (h : s.Closed) (hextends : s.Extends c a) : a ∈ s.classIds := by
  obtain ⟨p, xs, link, hpath⟩ := hextends
  obtain ⟨d, hd, hp⟩ := parent?_eq_some.1 link
  exact h.mem_classIds_of_path (mem_classIds.2 (h.class_parent hd hp)) hpath

/-- A walk of limited length finds what fewer links than that lead to. -/
theorem lineage (h : s.Closed) (limit : Nat) : ∀ {start : Option ClassId},
    (∀ c, start = some c → c ∈ s.classIds) → ∃ found, s.lineage limit start = some found ∧
      ∀ a, a ∈ found ↔ ∃ c xs, start = some c ∧ Path s.parent? c xs a ∧ xs.length < limit := by
  induction limit with
  | zero => exact fun _ => ⟨[], by simp [Schema.lineage]⟩
  | succ limit ih =>
    intro start hstart
    cases start with
    | none => exact ⟨[], by simp [Schema.lineage]⟩
    | some c =>
      obtain ⟨d, hd⟩ := mem_classIds.1 (hstart c rfl)
      obtain ⟨rest, hrest, hmem⟩ :=
        ih fun p (hp : d.parent = some p) => mem_classIds.2 (h.class_parent hd hp)
      refine ⟨c :: rest, by simp [Schema.lineage, hd, hrest], fun a => ?_⟩
      rw [List.mem_cons, hmem]
      constructor
      · rintro (rfl | ⟨p, xs, hp, hpath, hlt⟩)
        · exact ⟨a, [], rfl, .here a, Nat.succ_pos limit⟩
        · exact ⟨c, c :: xs, rfl, .step (parent?_eq_some.2 ⟨d, hd, hp⟩) hpath, by simpa using hlt⟩
      · rintro ⟨c', xs, hc, hpath, hlt⟩
        obtain rfl := Option.some.inj hc
        cases hpath with
        | here => exact .inl rfl
        | step link rest =>
          obtain ⟨d', hd', hp⟩ := parent?_eq_some.1 link
          obtain rfl := Option.some.inj (hd.symm.trans hd')
          exact .inr ⟨_, _, hp, rest, by simpa using hlt⟩

/-- The superclasses of a class are the classes that it extends, circles or not. -/
theorem superclasses (h : s.Closed) (hc : c ∈ s.classIds) :
    ∃ found, s.superclasses c = some found ∧ ∀ a, a ∈ found ↔ s.Extends c a := by
  have hparent (p : ClassId) (link : s.parent? c = some p) : p ∈ s.classIds :=
    h.mem_classIds_of_path hc (.step link (.here p))
  obtain ⟨found, hfound, hmem⟩ := h.lineage s.classes.size hparent
  refine ⟨found, superclasses_eq_some_iff.2 ⟨hc, hfound⟩, fun a => ?_⟩
  rw [hmem]
  constructor
  · rintro ⟨p, xs, link, hpath, -⟩
    exact ⟨p, xs, link, hpath⟩
  · rintro ⟨p, xs, link, hpath⟩
    obtain ⟨ys, hys, hnodup⟩ := hpath.exists_nodup
    have hlt := hys.length_lt (fun _ _ => mem_classIds_of_parent?)
      (h.mem_classIds_of_path (hparent p link) hpath) hnodup
    exact ⟨p, ys, link, hys, by simpa [classIds] using hlt⟩

end Closed

end SchemaTypes.Schema
