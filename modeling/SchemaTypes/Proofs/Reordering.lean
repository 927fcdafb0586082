/-
Documents whose packages stand in another order, and in each package the
enumerations, the typedefs and the classes.

Reordering changes no name, so a reference still leads to the declaration with
the name that it gives, and the document makes as much sense as before
(`Permuted.acceptable_iff`). Only the numbers of the declarations change, by a
permutation for each kind (`Permuted.exists_moved`).
-/
import SchemaTypes.Proofs.Acceptance
import SchemaTypes.Proofs.Renumbering
import Mathlib.Logic.Equiv.Basic

namespace SchemaTypes.Document

/-- The same package with its enumerations, typedefs and classes in another order. -/
structure PackagePart.Permuted (p q : PackagePart) : Prop where
  name : q.name = p.name
  defaults : q.defaults = p.defaults
  span : q.span = p.span
  enums : p.enums.Perm q.enums
  typedefs : p.typedefs.Perm q.typedefs
  classes : p.classes.Perm q.classes

theorem PackagePart.Permuted.symm {p q : PackagePart} (h : p.Permuted q) : q.Permuted p where
  name := h.name.symm
  defaults := h.defaults.symm
  span := h.span.symm
  enums := h.enums.symm
  typedefs := h.typedefs.symm
  classes := h.classes.symm

/-- The same document with its packages in another order, and what is in them. -/
def Permuted (d d' : Document) : Prop :=
  ∃ ps, d.packages.Perm ps ∧ List.Forall₂ PackagePart.Permuted ps d'.packages

/-! ## Permutations of places -/

/-- A permutation of the places of a list, with one more place before them. -/
def shifted (σ : Equiv.Perm Nat) : Equiv.Perm Nat where
  toFun
    | 0 => 0
    | i + 1 => σ i + 1
  invFun
    | 0 => 0
    | i + 1 => σ.symm i + 1
  left_inv i := by cases i <;> simp
  right_inv i := by cases i <;> simp

theorem exists_places_of_perm {α : Type} {xs ys : List α} (h : xs.Perm ys) :
    ∃ σ : Equiv.Perm Nat, ∀ i, ys[σ i]? = xs[i]? := by
  induction h with
  | nil => exact ⟨.refl _, fun _ => rfl⟩
  | cons x _ ih =>
    obtain ⟨σ, hσ⟩ := ih
    refine ⟨shifted σ, fun i => ?_⟩
    cases i with
    | zero => rfl
    | succ i => exact hσ i
  | swap x y xs =>
    refine ⟨.swap 0 1, fun i => ?_⟩
    match i with
    | 0 => simp
    | 1 => simp
    | i + 2 => rw [Equiv.swap_apply_of_ne_of_ne (by omega) (by omega)]; rfl
  | trans _ _ ih₁ ih₂ =>
    obtain ⟨σ, hσ⟩ := ih₁
    obtain ⟨τ, hτ⟩ := ih₂
    exact ⟨σ.trans τ, fun i => (hτ (σ i)).trans (hσ i)⟩

theorem rel_getElem?_of_forall₂ {α β : Type} {R : α → β → Prop} {xs : List α} {ys : List β}
    (h : List.Forall₂ R xs ys) : ∀ i : Nat, Option.Rel R xs[i]? ys[i]? := by
  induction h with
  | nil => exact fun _ => .none
  | cons hxy _ ih =>
    intro i
    cases i with
    | zero => exact .some hxy
    | succ i => exact ih i

theorem Permuted.exists_places {d d' : Document} (h : d.Permuted d') :
    ∃ σ : Equiv.Perm Nat, ∀ i : Nat,
      Option.Rel PackagePart.Permuted d.packages[i]? d'.packages[σ i]? := by
  obtain ⟨ps, hperm, hrel⟩ := h
  obtain ⟨σ, hσ⟩ := exists_places_of_perm hperm
  exact ⟨σ, fun i => hσ i ▸ rel_getElem?_of_forall₂ hrel (σ i)⟩

/-! ## Reordered documents make as much sense -/

theorem mem_map_qualified {α : Type} {pick : PackagePart → List α} {name : α → String}
    {ps : List PackagePart} {key : QualifiedName} :
    key ∈ (members pick ps).map (·.qualified name) ↔
      ∃ p ∈ ps, p.name = key.package ∧ key.name ∈ (pick p).map name := by
  simp only [List.mem_map, mem_members]
  constructor
  · rintro ⟨x, ⟨p, hp, haround, hx⟩, rfl⟩
    exact ⟨p, List.mem_of_getElem? hp, haround.symm, x.part, hx, rfl⟩
  · rintro ⟨p, hp, hname, x, hx, hkey⟩
    obtain ⟨i, hi⟩ := List.mem_iff_getElem?.1 hp
    refine ⟨⟨⟨i⟩, p.name, x⟩, ⟨p, hi, rfl, hx⟩, ?_⟩
    rw [Placed.qualified, hname, hkey]

/-- Two documents declare the same names, kind by kind. -/
structure SameNames (d d' : Document) : Prop where
  enums : ∀ key, key ∈ d'.enumNames ↔ key ∈ d.enumNames
  typedefs : ∀ key, key ∈ d'.typedefNames ↔ key ∈ d.typedefNames
  classes : ∀ key, key ∈ d'.classNames ↔ key ∈ d.classNames

section SameNames

variable {d d' : Document} {around : String}

theorem TypePart.Acceptable.congr (h : d.SameNames d') {type : TypePart}
    (htype : type.Acceptable d around) : type.Acceptable d' around := by
  cases type with
  | elementary p =>
    obtain ⟨hsignedness, htrimming, hcontrolChars, henumeration⟩ := htype
    exact ⟨hsignedness, htrimming, hcontrolChars,
      fun reference hreference => (h.enums _).2 (henumeration reference hreference)⟩
  | object reference => exact (h.classes _).2 htype
  | typedef reference => exact (h.typedefs _).2 htype

theorem ClassPart.Acceptable.congr (h : d.SameNames d') {p : ClassPart}
    (hp : p.Acceptable d around) : p.Acceptable d' around where
  parent reference hreference := (h.classes _).2 (hp.parent reference hreference)
  defaults := hp.defaults
  fields f hf := ⟨(hp.fields f hf).type.congr h, (hp.fields f hf).required⟩

end SameNames

namespace PackagePart.Permuted

variable {d d' : Document} {p q : PackagePart}

theorem declarable (h : p.Permuted q) (hp : p.Declarable) : q.Declarable where
  defaults block hblock := hp.defaults block (h.defaults ▸ hblock)
  enums := (h.enums.map _).nodup_iff.1 hp.enums
  typedefs := (h.typedefs.map _).nodup_iff.1 hp.typedefs
  classes := (h.classes.map _).nodup_iff.1 hp.classes

theorem definable (h : p.Permuted q) (hnames : d.SameNames d') (hp : p.Definable d) :
    q.Definable d' where
  typedefs t ht := h.name ▸ (hp.typedefs t (h.typedefs.mem_iff.2 ht)).congr hnames
  classes c hc := h.name ▸ (hp.classes c (h.classes.mem_iff.2 hc)).congr hnames

theorem dotless (h : p.Permuted q) (hp : p.Dotless) : q.Dotless where
  typedefs t ht := hp.typedefs t (h.typedefs.mem_iff.2 ht)
  classes c hc := hp.classes c (h.classes.mem_iff.2 hc)

end PackagePart.Permuted

namespace Permuted

variable {d d' : Document}

theorem symm (h : d.Permuted d') : d'.Permuted d := by
  obtain ⟨ps, hperm, hrel⟩ := h
  obtain ⟨qs, hrel', hperm'⟩ := List.perm_comp_forall₂ hperm hrel
  exact ⟨qs, hperm'.symm, hrel'.flip.imp fun _ _ hpq => hpq.symm⟩

theorem exists_package (h : d.Permuted d') {q : PackagePart} (hq : q ∈ d'.packages) :
    ∃ p ∈ d.packages, p.Permuted q := by
  obtain ⟨σ, hσ⟩ := h.exists_places
  obtain ⟨j, hj⟩ := List.mem_iff_getElem?.1 hq
  have hrel := hσ (σ.symm j)
  rw [Equiv.apply_symm_apply, hj] at hrel
  generalize hp : d.packages[σ.symm j]? = found at hrel
  cases hrel with
  | some hpq => exact ⟨_, List.mem_of_getElem? hp, hpq⟩

theorem mem_names {α : Type} {pick : PackagePart → List α} {name : α → String}
    (h : d.Permuted d') (hpick : ∀ p q : PackagePart, p.Permuted q → (pick p).Perm (pick q))
    (key : QualifiedName) :
    key ∈ (members pick d'.packages).map (·.qualified name) ↔
      key ∈ (members pick d.packages).map (·.qualified name) := by
  rw [mem_map_qualified, mem_map_qualified]
  constructor
  · rintro ⟨q, hq, hname, hkey⟩
    obtain ⟨p, hp, hpq⟩ := h.exists_package hq
    exact ⟨p, hp, hpq.name.symm.trans hname, ((hpick p q hpq).map name).mem_iff.2 hkey⟩
  · rintro ⟨p, hp, hname, hkey⟩
    obtain ⟨q, hq, hqp⟩ := h.symm.exists_package hp
    exact ⟨q, hq, hqp.name.symm.trans hname, ((hpick q p hqp).map name).mem_iff.2 hkey⟩

theorem sameNames (h : d.Permuted d') : d.SameNames d' where
  enums := h.mem_names fun _ _ hpq => hpq.enums
  typedefs := h.mem_names fun _ _ hpq => hpq.typedefs
  classes := h.mem_names fun _ _ hpq => hpq.classes

theorem perm_packageNames (h : d.Permuted d') :
    (d.packages.map (·.name)).Perm (d'.packages.map (·.name)) := by
  obtain ⟨ps, hperm, hrel⟩ := h
  have hnames : ps.map (·.name) = d'.packages.map (·.name) := by
    rw [← List.forall₂_eq_eq_eq, List.forall₂_map_left_iff, List.forall₂_map_right_iff]
    exact hrel.imp fun _ _ hpq => hpq.name.symm
  rw [← hnames]
  exact hperm.map _

theorem acceptable (h : d.Permuted d') (hd : d.Acceptable) : d'.Acceptable where
  packages := h.perm_packageNames.nodup_iff.1 hd.packages
  declarable _ hq :=
    let ⟨p, hp, hpq⟩ := h.exists_package hq
    hpq.declarable (hd.declarable p hp)
  definable _ hq :=
    let ⟨p, hp, hpq⟩ := h.exists_package hq
    hpq.definable h.sameNames (hd.definable p hp)

theorem acceptable_iff (h : d.Permuted d') : d'.Acceptable ↔ d.Acceptable :=
  ⟨h.symm.acceptable, h.acceptable⟩

theorem dotless (h : d.Permuted d') (hd : d.Dotless) : d'.Dotless := fun _ hq =>
  let ⟨p, hp, hpq⟩ := h.exists_package hq
  hpq.dotless (hd p hp)

end Permuted

/-! ## Where the declarations go -/

/-- A declaration whose package has another number. -/
def Placed.moved {α : Type} (σ : Equiv.Perm Nat) (x : Placed α) : Placed α :=
  { x with package := ⟨σ x.package.index⟩ }

/-- A field whose class has another number. -/
def PlacedField.moved (σ : Equiv.Perm Nat) (x : PlacedField) : PlacedField :=
  { x with owner := ⟨σ x.owner.index⟩ }

theorem Placed.moved_bijective {α : Type} (σ : Equiv.Perm Nat) :
    Function.Bijective (Placed.moved (α := α) σ) := by
  refine Function.bijective_iff_has_inverse.2 ⟨Placed.moved σ.symm, fun x => ?_, fun x => ?_⟩ <;>
    simp [Placed.moved]

theorem PlacedField.moved_bijective (σ : Equiv.Perm Nat) :
    Function.Bijective (PlacedField.moved σ) := by
  refine Function.bijective_iff_has_inverse.2
    ⟨PlacedField.moved σ.symm, fun x => ?_, fun x => ?_⟩ <;> simp [PlacedField.moved]

/-- Lists without repetitions that have the same members, up to a bijection, have them at places
that a permutation leads to. -/
theorem exists_mapped_places {α : Type} {xs ys : List α} {g : α → α} (hxs : xs.Nodup)
    (hys : ys.Nodup) (hg : Function.Bijective g) (hmem : ∀ x, g x ∈ ys ↔ x ∈ xs) :
    ∃ σ : Equiv.Perm Nat, ∀ i, ys[σ i]? = xs[i]?.map g := by
  have hperm : (xs.map g).Perm ys := by
    rw [List.perm_ext_iff_of_nodup (hxs.map hg.1) hys]
    intro y
    obtain ⟨x, rfl⟩ := hg.2 y
    rw [List.mem_map_of_injective hg.1, hmem]
  obtain ⟨σ, hσ⟩ := exists_places_of_perm hperm
  exact ⟨σ, fun i => by rw [hσ, List.getElem?_map]⟩

theorem moved_mem_members {α : Type} {pick : PackagePart → List α} {ps qs : List PackagePart}
    {σ : Equiv.Perm Nat} (hσ : ∀ i : Nat, Option.Rel PackagePart.Permuted ps[i]? qs[σ i]?)
    (hpick : ∀ p q : PackagePart, p.Permuted q → (pick p).Perm (pick q)) (x : Placed α) :
    x.moved σ ∈ members pick qs ↔ x ∈ members pick ps := by
  have hrel := hσ x.package.index
  simp only [mem_members, Placed.moved]
  generalize ps[x.package.index]? = p, qs[σ x.package.index]? = q at hrel
  cases hrel with
  | none => simp
  | some hpq => simp [hpq.name, (hpick _ _ hpq).mem_iff]

theorem moved_mem_fieldsOf {cs cs' : List (Placed ClassPart)} {σ τ : Equiv.Perm Nat}
    (hτ : ∀ i, cs'[τ i]? = cs[i]?.map (·.moved σ)) (x : PlacedField) :
    x.moved τ ∈ fieldsOf cs' ↔ x ∈ fieldsOf cs := by
  simp only [mem_fieldsOf, PlacedField.moved, hτ, Option.map_eq_some_iff]
  constructor
  · rintro ⟨_, ⟨y, hy, rfl⟩, haround, hpart⟩
    exact ⟨y, hy, haround, hpart⟩
  · rintro ⟨y, hy, haround, hpart⟩
    exact ⟨_, ⟨y, hy, rfl⟩, haround, hpart⟩

theorem nodup_fieldsOf (cs : List (Placed ClassPart)) : (fieldsOf cs).Nodup := by
  induction cs using List.reverseRecOn with
  | nil => simp [fieldsOf]
  | append_singleton cs x ih =>
    have hsnoc : fieldsOf (cs ++ [x]) = fieldsOf cs ++
        x.part.fields.zipIdx.map fun y => ⟨⟨cs.length⟩, y.2, x.around, y.1⟩ := by
      simp [fieldsOf, List.zipIdx_append]
    rw [hsnoc, List.nodup_append']
    refine ⟨ih, .of_map PlacedField.place ?_, ?_⟩
    · rw [List.map_map]
      exact (List.zipIdx_map_snd 0 x.part.fields).symm ▸ List.nodup_range'
    · -- The fields so far belong to classes with a smaller number.
      rw [List.disjoint_left]
      intro y hy hy'
      obtain ⟨z, hz, -⟩ := mem_fieldsOf.1 hy
      obtain ⟨_, -, rfl⟩ := List.mem_map.1 hy'
      exact absurd (List.getElem?_eq_some_iff.1 hz).1 (Nat.lt_irrefl _)

namespace Acceptable

variable {d : Document}

theorem enumNames (h : d.Acceptable) : d.enumNames.Nodup :=
  nodup_qualified h.packages fun p hp => (h.declarable p hp).enums

theorem typedefNames (h : d.Acceptable) : d.typedefNames.Nodup :=
  nodup_qualified h.packages fun p hp => (h.declarable p hp).typedefs

theorem classNames (h : d.Acceptable) : d.classNames.Nodup :=
  nodup_qualified h.packages fun p hp => (h.declarable p hp).classes

end Acceptable

/-- A renumbering tells where the declarations of a document stand in another one. The numbers of
data types are left open. -/
structure Moved (φ : Renumbering) (d d' : Document) : Prop where
  packages : ∀ i : Nat,
    Option.Rel PackagePart.Permuted d.packages[i]? d'.packages[φ.packages i]?
  enums : ∀ i, d'.enums[φ.enums i]? = d.enums[i]?.map (·.moved φ.packages)
  typedefs : ∀ i, d'.typedefs[φ.typedefs i]? = d.typedefs[i]?.map (·.moved φ.packages)
  classes : ∀ i, d'.classes[φ.classes i]? = d.classes[i]?.map (·.moved φ.packages)
  fields : ∀ i, d'.fields[φ.fields i]? = d.fields[i]?.map (·.moved φ.classes)

theorem Permuted.exists_moved {d d' : Document} (h : d.Permuted d') (hd : d.Acceptable) :
    ∃ φ, Moved φ d d' := by
  have hd' := h.acceptable hd
  obtain ⟨σ, hσ⟩ := h.exists_places
  obtain ⟨enums, henums⟩ := exists_mapped_places hd.enumNames.of_map hd'.enumNames.of_map
    (Placed.moved_bijective σ) (moved_mem_members hσ fun _ _ hpq => hpq.enums)
  obtain ⟨typedefs, htypedefs⟩ := exists_mapped_places hd.typedefNames.of_map
    hd'.typedefNames.of_map (Placed.moved_bijective σ)
    (moved_mem_members hσ fun _ _ hpq => hpq.typedefs)
  obtain ⟨classes, hclasses⟩ := exists_mapped_places hd.classNames.of_map hd'.classNames.of_map
    (Placed.moved_bijective σ) (moved_mem_members hσ fun _ _ hpq => hpq.classes)
  obtain ⟨fields, hfields⟩ := exists_mapped_places (nodup_fieldsOf d.classes)
    (nodup_fieldsOf d'.classes) (PlacedField.moved_bijective classes)
    (moved_mem_fieldsOf hclasses)
  exact ⟨⟨σ, classes, fields, typedefs, enums, .refl _⟩, hσ, henums, htypedefs, hclasses, hfields⟩

end SchemaTypes.Document
