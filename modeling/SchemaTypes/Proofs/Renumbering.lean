/-
Schemas that differ in their handles only.

A renumbering maps the handles of each kind one to one. It leads from one
schema to another if every look-up finds the same on both sides, with the
handles in it mapped. Names, rules and the answers for data types do not depend
on handles, so they are the same on both sides, too.
-/
import SchemaTypes.Proofs.FreshCheck
import Mathlib.Logic.Equiv.Defs

namespace SchemaTypes

/-- A one-to-one change of the handles of each kind, given by the places in the tables. -/
structure Renumbering where
  packages : Equiv.Perm Nat
  classes : Equiv.Perm Nat
  fields : Equiv.Perm Nat
  typedefs : Equiv.Perm Nat
  enums : Equiv.Perm Nat
  dataTypes : Equiv.Perm Nat

namespace Renumbering

variable (φ : Renumbering)

def package (p : PackageId) : PackageId :=
  ⟨φ.packages p.index⟩

def classDecl (c : ClassId) : ClassId :=
  ⟨φ.classes c.index⟩

def field (f : FieldId) : FieldId :=
  ⟨φ.fields f.index⟩

def typedef (t : TypedefId) : TypedefId :=
  ⟨φ.typedefs t.index⟩

def enumDecl (e : EnumId) : EnumId :=
  ⟨φ.enums e.index⟩

def dataType (d : DataTypeId) : DataTypeId :=
  ⟨φ.dataTypes d.index⟩

theorem field_injective : Function.Injective φ.field := by
  rintro ⟨i⟩ ⟨j⟩ h
  simpa [field] using h

theorem dataType_injective : Function.Injective φ.dataType := by
  rintro ⟨i⟩ ⟨j⟩ h
  simpa [dataType] using h

end Renumbering

/-! ## Declarations and descriptors with their handles mapped -/

section Renumber

variable (φ : Renumbering)

def ClassDecl.renumber (c : ClassDecl) : ClassDecl :=
  { c with
    package := c.package.map φ.package
    parent := c.parent.map φ.classDecl
    fields := c.fields.map φ.field }

def FieldDecl.renumber (f : FieldDecl) : FieldDecl :=
  { f with
    owner := φ.classDecl f.owner
    dataType := φ.dataType f.dataType }

def TypedefDecl.renumber (t : TypedefDecl) : TypedefDecl :=
  { t with
    package := t.package.map φ.package
    dataType := φ.dataType t.dataType }

def EnumDecl.renumber (e : EnumDecl) : EnumDecl :=
  { e with package := e.package.map φ.package }

def Elementary.renumber (e : Elementary) : Elementary :=
  { e with enumeration := e.enumeration.map φ.enumDecl }

def TypeForm.renumber : TypeForm → TypeForm
  | .elementary e => .elementary (e.renumber φ)
  | .object c => .object (φ.classDecl c)
  | .alias t => .alias (φ.typedef t)

def TypeOwner.renumber : TypeOwner → TypeOwner
  | .field f => .field (φ.field f)
  | .typedef t => .typedef (φ.typedef t)

def DataType.renumber (d : DataType) : DataType :=
  { d with
    form := d.form.renumber φ
    owner := d.owner.renumber φ }

def ElementaryTarget.renumber (e : ElementaryTarget) : ElementaryTarget :=
  { e with enumeration := e.enumeration.map φ.enumDecl }

def Target.renumber : Target → Target
  | .elementary e => .elementary (e.renumber φ)
  | .object c => .object (φ.classDecl c)

def Descriptor.renumber (d : Descriptor) : Descriptor where
  origin := φ.dataType d.origin
  typedef := d.typedef.map φ.typedef
  target := d.target.renumber φ

end Renumber

theorem TypeOwner.renumber_bijective (φ : Renumbering) :
    Function.Bijective (TypeOwner.renumber φ) := by
  constructor
  · rintro (⟨⟨i⟩⟩ | ⟨⟨i⟩⟩) (⟨⟨j⟩⟩ | ⟨⟨j⟩⟩) h <;>
      simp_all [TypeOwner.renumber, Renumbering.field, Renumbering.typedef]
  · rintro (⟨⟨i⟩⟩ | ⟨⟨i⟩⟩)
    · exact ⟨.field ⟨φ.fields.symm i⟩, by simp [TypeOwner.renumber, Renumbering.field]⟩
    · exact ⟨.typedef ⟨φ.typedefs.symm i⟩, by simp [TypeOwner.renumber, Renumbering.typedef]⟩

/-- A renumbering leads from a schema to another one: whatever is found under a handle here is
found under the mapped handle there, with the handles in it mapped. The tables of names are left
out, since a declaration has its name itself. -/
structure Renumbered (φ : Renumbering) (s s' : Schema) : Prop where
  package : ∀ p, s'.package? (φ.package p) = s.package? p
  classDecl : ∀ c, s'.class? (φ.classDecl c) = (s.class? c).map (·.renumber φ)
  field : ∀ f, s'.field? (φ.field f) = (s.field? f).map (·.renumber φ)
  typedef : ∀ t, s'.typedef? (φ.typedef t) = (s.typedef? t).map (·.renumber φ)
  enumDecl : ∀ e, s'.enum? (φ.enumDecl e) = (s.enum? e).map (·.renumber φ)
  dataType : ∀ d, s'.dataType? (φ.dataType d) = (s.dataType? d).map (·.renumber φ)

namespace Renumbered

variable {φ : Renumbering} {s s' : Schema}

/-! ## The handles of a table -/

/-- Tables with the same entries under mapped places have the same places, in another order. -/
theorem perm_range {n n' : Nat} {σ : Equiv.Perm Nat} (hσ : ∀ i, σ i < n' ↔ i < n) :
    ((List.range n).map σ).Perm (List.range n') := by
  rw [List.perm_ext_iff_of_nodup (List.nodup_range.map σ.injective) List.nodup_range]
  intro j
  obtain ⟨i, rfl⟩ := σ.surjective j
  simp [hσ]

section Tables

variable {α β : Type} {xs : Array α} {ys : Array β} {σ : Equiv.Perm Nat} {g : α → β}

theorem lt_size_iff_of_lookup (h : ∀ i, ys[σ i]? = xs[i]?.map g) (i : Nat) :
    σ i < ys.size ↔ i < xs.size := by
  rw [Schema.lt_size_iff, Schema.lt_size_iff, h]
  simp

theorem perm_ids (h : ∀ i, ys[σ i]? = xs[i]?.map g) {γ : Type} {mk : Nat → γ} {f : γ → γ}
    (hf : ∀ i, f (mk i) = mk (σ i)) :
    (((List.range xs.size).map mk).map f).Perm ((List.range ys.size).map mk) := by
  have hperm := (perm_range (lt_size_iff_of_lookup h)).map mk
  simpa [Function.comp_def, hf] using hperm

end Tables

theorem perm_classIds (h : Renumbered φ s s') : (s.classIds.map φ.classDecl).Perm s'.classIds :=
  perm_ids (fun i => h.classDecl ⟨i⟩) fun _ => rfl

theorem perm_fieldIds (h : Renumbered φ s s') : (s.fieldIds.map φ.field).Perm s'.fieldIds :=
  perm_ids (fun i => h.field ⟨i⟩) fun _ => rfl

theorem perm_typedefIds (h : Renumbered φ s s') :
    (s.typedefIds.map φ.typedef).Perm s'.typedefIds :=
  perm_ids (fun i => h.typedef ⟨i⟩) fun _ => rfl

theorem perm_dataTypeIds (h : Renumbered φ s s') :
    (s.dataTypeIds.map φ.dataType).Perm s'.dataTypeIds :=
  perm_ids (fun i => h.dataType ⟨i⟩) fun _ => rfl

theorem classes_size (h : Renumbered φ s s') : s'.classes.size = s.classes.size := by
  simpa [Schema.classIds] using h.perm_classIds.length_eq.symm

/-! ## Names -/

theorem qualify (h : Renumbered φ s s') (p : Option PackageId) (name : String) :
    s'.qualify (p.map φ.package) name = s.qualify p name := by
  cases p <;> simp [Schema.qualify, h.package]

theorem className (h : Renumbered φ s s') (c : ClassId) :
    s'.className (φ.classDecl c) = s.className c := by
  simp only [Schema.className, h.classDecl]
  cases s.class? c with
  | none => rfl
  | some d => exact h.qualify d.package d.name

theorem typedefName (h : Renumbered φ s s') (t : TypedefId) :
    s'.typedefName (φ.typedef t) = s.typedefName t := by
  simp only [Schema.typedefName, h.typedef]
  cases s.typedef? t with
  | none => rfl
  | some d => exact h.qualify d.package d.name

/-! ## Superclasses and fields -/

theorem lineage (h : Renumbered φ s s') (limit : Nat) : ∀ start : Option ClassId,
    s'.lineage limit (start.map φ.classDecl) = (s.lineage limit start).map (·.map φ.classDecl) := by
  induction limit with
  | zero => exact fun _ => rfl
  | succ limit ih =>
    intro start
    cases start with
    | none => rfl
    | some c =>
      simp only [Option.map_some, Schema.lineage, h.classDecl]
      cases s.class? c with
      | none => rfl
      | some d =>
        have hrest := ih d.parent
        simp only [Option.map_some, Option.bind_eq_bind, Option.bind_some, ClassDecl.renumber]
        rw [hrest]
        cases s.lineage limit d.parent <;> rfl

theorem firstNamed (h : Renumbered φ s s') (name : String) (except : Option FieldId)
    (ids : List FieldId) :
    s'.firstNamed name (except.map φ.field) (ids.map φ.field) =
      (s.firstNamed name except ids).map (·.map φ.field) := by
  induction ids with
  | nil => rfl
  | cons f rest ih =>
    have hexcept : some (φ.field f) = except.map φ.field ↔ some f = except := by
      rw [← Option.map_some, (Option.map_injective φ.field_injective).eq_iff]
    simp only [List.map_cons, Schema.firstNamed, hexcept, ih, h.field]
    split
    · rfl
    · cases s.field? f with
      | none => rfl
      | some d =>
        simp only [Option.map_some, Option.bind_eq_bind, Option.bind_some, FieldDecl.renumber]
        split <;> rfl

theorem superclasses (h : Renumbered φ s s') (c : ClassId) :
    s'.superclasses (φ.classDecl c) = (s.superclasses c).map (·.map φ.classDecl) := by
  simp only [Schema.superclasses, h.classDecl, h.classes_size]
  cases s.class? c with
  | none => rfl
  | some d => exact h.lineage s.classes.size d.parent

/-! ## Rules -/

section Rules

open Validation

theorem finalParent (h : Renumbered φ s s') (c : ClassDecl) :
    finalParent s' (c.renumber φ) = finalParent s c := by
  cases hparent : c.parent with
  | none => simp [Validation.finalParent, ClassDecl.renumber, hparent]
  | some parent =>
    simp only [Validation.finalParent, ClassDecl.renumber, hparent, Option.map_some, h.classDecl,
      h.className]
    cases s.class? parent <;> rfl

theorem classFindings (h : Renumbered φ s s') (c : ClassId) :
    classFindings s' (φ.classDecl c) = classFindings s c := by
  simp only [Validation.classFindings, h.classDecl]
  cases s.class? c with
  | none => rfl
  | some d =>
    simp only [Option.map_some, Option.bind_eq_bind, Option.bind_some, h.finalParent]
    rfl

variable (id : FieldId) (f : FieldDecl)

theorem duplicateName (h : Renumbered φ s s') :
    duplicateName s' (φ.field id) (f.renumber φ) = duplicateName s id f := by
  simp only [Validation.duplicateName, FieldDecl.renumber, h.classDecl]
  cases s.class? f.owner with
  | none => rfl
  | some owner =>
    have hfirst := h.firstNamed f.name (some id) owner.fields.toList
    simp only [Option.map_some, Option.bind_eq_bind, Option.bind_some, ClassDecl.renumber,
      Array.toList_map] at hfirst ⊢
    rw [hfirst]
    rcases s.firstNamed f.name (some id) owner.fields.toList with _ | (_ | other)
    · rfl
    · rfl
    · simp only [Option.map_some, Option.bind_some, h.field]
      cases s.field? other <;> rfl

theorem shadowedIn (h : Renumbered φ s s') (ancestor : ClassId) :
    shadowedIn s' (φ.field id) (f.renumber φ) (φ.classDecl ancestor) =
      shadowedIn s id f ancestor := by
  simp only [Validation.shadowedIn, FieldDecl.renumber, h.classDecl, h.className]
  cases s.class? ancestor with
  | none => rfl
  | some owner =>
    have hfirst := h.firstNamed f.name (some id) owner.fields.toList
    simp only [Option.map_some, Option.bind_eq_bind, Option.bind_some, ClassDecl.renumber,
      Array.toList_map] at hfirst ⊢
    rw [hfirst]
    rcases s.firstNamed f.name (some id) owner.fields.toList with _ | (_ | inherited)
    · rfl
    · rfl
    · simp only [Option.map_some, Option.bind_some, h.field]
      cases s.className ancestor <;> cases s.field? inherited <;> rfl

theorem shadowing (h : Renumbered φ s s') :
    shadowing s' (φ.field id) (f.renumber φ) = shadowing s id f := by
  have hancestors : s'.superclasses (f.renumber φ).owner = _ := h.superclasses f.owner
  simp only [Validation.shadowing, hancestors]
  cases s.superclasses f.owner with
  | none => rfl
  | some ancestors =>
    simp only [Option.map_some, Option.bind_eq_bind, Option.bind_some, List.mapM_map,
      Function.comp_def, h.shadowedIn]

theorem fieldMarker (h : Renumbered φ s s') :
    fieldMarker s' (f.renumber φ) = fieldMarker s f := by
  cases hmarker : f.required with
  | none => simp [Validation.fieldMarker, FieldDecl.renumber, hmarker]
  | some marker =>
    simp only [Validation.fieldMarker, FieldDecl.renumber, hmarker, h.dataType]
    cases s.dataType? f.dataType with
    | none => rfl
    | some d =>
      simp only [Option.map_some, Option.bind_eq_bind, Option.bind_some, DataType.renumber]
      rcases d.form with e | c | t
      · rfl
      · rfl
      · simp only [TypeForm.renumber, h.typedefName]
        rfl

theorem fieldShape (h : Renumbered φ s s') :
    fieldShape s' (φ.field id) (f.renumber φ) = fieldShape s id f := by
  simp only [Validation.fieldShape, h.duplicateName, h.shadowing, h.fieldMarker]
  rfl

theorem dataTypeLength (φ : Renumbering) (d : DataType) :
    dataTypeLength (d.renumber φ) = dataTypeLength d := by
  obtain ⟨form, owner, span⟩ := d
  cases form <;> rfl

end Rules

/-! ## Scalars -/

theorem cascade (h : Renumbered φ s s') (id : DataTypeId) :
    Cascade.ofDataType s' (φ.dataType id) = Cascade.ofDataType s id := by
  have hinside (inClass : Option Defaults) (p : Option PackageId) :
      Cascade.inside s' inClass (p.map φ.package) = Cascade.inside s inClass p := by
    cases p <;> simp [Cascade.inside, h.package]
  simp only [Cascade.ofDataType, h.dataType]
  cases s.dataType? id with
  | none => rfl
  | some d =>
    simp only [Option.map_some, Option.bind_eq_bind, Option.bind_some, DataType.renumber]
    cases d.owner with
    | field f =>
      simp only [TypeOwner.renumber, h.field]
      cases s.field? f with
      | none => rfl
      | some field =>
        simp only [Option.map_some, Option.bind_some, FieldDecl.renumber, h.classDecl]
        cases s.class? field.owner with
        | none => rfl
        | some owner => exact hinside owner.defaults owner.package
    | typedef t =>
      simp only [TypeOwner.renumber, h.typedef]
      cases s.typedef? t with
      | none => rfl
      | some typedef => exact hinside none typedef.package

theorem attributes (h : Renumbered φ s s') (id : DataTypeId) (e : Elementary) :
    Attributes.ofDataType s' (φ.dataType id) (e.renumber φ) = Attributes.ofDataType s id e := by
  simp only [Attributes.ofDataType, h.cascade, h.dataType]
  rcases Cascade.ofDataType s id with _ | (_ | cascade)
  · rfl
  · simp only [Option.bind_eq_bind, Option.bind_some]
    cases s.dataType? id <;> rfl
  · rfl

theorem representation (h : Renumbered φ s s') (kind : Kind) (e : Elementary) :
    s'.representation kind (e.renumber φ) = s.representation kind e := by
  simp only [Schema.representation, Elementary.renumber]
  cases kind.representation? with
  | some r => rfl
  | none =>
    cases e.enumeration with
    | none => rfl
    | some n =>
      simp only [Option.map_some, h.enumDecl, Option.map_map]
      rfl

theorem elementaryTarget (h : Renumbered φ s s') (id : DataTypeId) (e : Elementary) :
    s'.elementaryTarget (φ.dataType id) (e.renumber φ) =
      (s.elementaryTarget id e).map (Except.map (·.renumber φ)) := by
  have hname : (e.renumber φ).name = e.name := rfl
  simp only [Schema.elementaryTarget, h.attributes, h.dataType, h.representation, hname]
  rcases Attributes.ofDataType s id e with _ | (_ | attributes)
  · rfl
  · rfl
  · simp only [Option.bind_eq_bind, Option.bind_some]
    cases s.dataType? id with
    | none => rfl
    | some d =>
      simp only [Option.map_some, Option.bind_some]
      cases Kind.ofName? (Spelling.canonical e.name).name with
      | none => rfl
      | some kind =>
        dsimp only
        rcases s.representation kind e with _ | (_ | _) <;> rfl

/-! ## Answers -/

theorem alias? (h : Renumbered φ s s') (id : DataTypeId) :
    s'.alias? (φ.dataType id) = (s.alias? id).map φ.typedef := by
  simp only [Schema.alias?, h.dataType]
  cases s.dataType? id with
  | none => rfl
  | some d =>
    simp only [Option.map_some, Option.bind_eq_bind, Option.bind_some, DataType.renumber]
    cases d.form <;> rfl

theorem aliased? (h : Renumbered φ s s') (id : DataTypeId) :
    s'.aliased? (φ.dataType id) = (s.aliased? id).map φ.dataType := by
  simp only [Schema.aliased?, h.alias?]
  cases s.alias? id with
  | none => rfl
  | some t =>
    simp only [Option.map_some, Option.bind_eq_bind, Option.bind_some, h.typedef]
    cases s.typedef? t <;> rfl

theorem path (h : Renumbered φ s s') {x z : DataTypeId} {xs : List DataTypeId}
    (hpath : Path s.aliased? x xs z) :
    Path s'.aliased? (φ.dataType x) (xs.map φ.dataType) (φ.dataType z) := by
  induction hpath with
  | here => exact .here _
  | step link _ ih => exact .step (by rw [h.aliased?, link, Option.map_some]) ih

theorem terminal (h : Renumbered φ s s') {x : DataTypeId} {outcome : Except Failure Target}
    (hend : Schema.Terminal s x outcome) :
    Schema.Terminal s' (φ.dataType x) (outcome.map (·.renumber φ)) := by
  cases hend with
  | @object d c hd hform =>
    refine .object (d := d.renumber φ) (by rw [h.dataType, hd, Option.map_some]) ?_
    rw [DataType.renumber, hform]
    rfl
  | @elementary d e target hd hform htarget =>
    refine .elementary (d := d.renumber φ) (e := e.renumber φ)
      (by rw [h.dataType, hd, Option.map_some]) ?_ (by rw [h.elementaryTarget, htarget]; rfl)
    rw [DataType.renumber, hform]
    rfl
  | @failing d e cause hd hform hfails =>
    refine .failing (d := d.renumber φ) (e := e.renumber φ)
      (by rw [h.dataType, hd, Option.map_some]) ?_ (by rw [h.elementaryTarget, hfails]; rfl)
    rw [DataType.renumber, hform]
    rfl

theorem answers (h : Renumbered φ s s') {x : DataTypeId} {answer : Except Failure Descriptor}
    (hanswer : Schema.Answers s x answer) :
    Schema.Answers s' (φ.dataType x) (answer.map (·.renumber φ)) := by
  cases hanswer with
  | resolved way ending =>
    have hresolved := Schema.Answers.resolved (h.path way) (h.terminal ending)
    rwa [h.alias?] at hresolved
  | failed way ending => exact .failed (h.path way) (h.terminal ending)
  | @circular xs z t d name way fresh again ht hd hname =>
    refine .circular (d := d.renumber φ) (h.path way) (fresh.map φ.dataType_injective)
      (List.mem_map_of_mem again) (by rw [h.alias?, ht, Option.map_some])
      (by rw [h.typedef, hd, Option.map_some]) (by rw [h.typedefName, hname])

/-- Resolving without a memo gives the same on both sides, with the handles mapped. -/
theorem answer? (h : Renumbered φ s s') (hs : s.Closed) (hs' : s'.Closed) (x : DataTypeId) :
    s'.answer? (φ.dataType x) = (s.answer? x).map (Except.map (·.renumber φ)) := by
  cases hanswer : s.answer? x with
  | some answer =>
    exact hs'.answer?_eq_some.2 (h.answers (hs.answer?_eq_some.1 hanswer))
  | none =>
    rw [Option.map_none, Option.eq_none_iff_forall_ne_some]
    intro answer' hanswer'
    obtain ⟨d', hd'⟩ := Schema.mem_dataTypeIds.1 (hs'.answer?_eq_some.1 hanswer').mem_dataTypeIds
    rw [h.dataType] at hd'
    obtain ⟨d, hd, -⟩ := Option.map_eq_some_iff.1 hd'
    obtain ⟨answer, hfound⟩ := hs.exists_answer (Schema.mem_dataTypeIds.2 ⟨d, hd⟩)
    rw [hs.answer?_eq_some.2 hfound] at hanswer
    cases hanswer

end Renumbered

end SchemaTypes
