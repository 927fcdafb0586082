/-
What a document means, told without loading it.

Its declarations are numbered in the order of the text, kind by kind, and a
reference stands for the declaration that has the names it gives. `Acceptable`
says which documents make sense under this reading, and `Describes` which
schema such a document stands for. Neither mentions a pass, a draft or a
directory.
-/
import SchemaTypes.Document.Load
import SchemaTypes.Proofs.Correspondence
import Mathlib.Data.List.Induction
import Mathlib.Data.List.Nodup
import Mathlib.Tactic.MkIffOfInductiveProp

namespace SchemaTypes

/-! ## Settings -/

/-- A choice whose values are all listed and have keywords that differ in more than case. -/
class LawfulSetting (α : Type) [Setting α] : Prop where
  mem_all : ∀ v : α, v ∈ Setting.all
  distinct : ∀ v w : α, Text.sameLetters (keyword v) (keyword w) → v = w

instance : LawfulSetting Visibility where
  mem_all v := by cases v <;> decide
  distinct v w := by cases v <;> cases w <;> decide

instance : LawfulSetting PrimitiveUse where
  mem_all v := by cases v <;> decide
  distinct v w := by cases v <;> cases w <;> decide

instance : LawfulSetting Signedness where
  mem_all v := by cases v <;> decide
  distinct v w := by cases v <;> cases w <;> decide

instance : LawfulSetting Trimming where
  mem_all v := by cases v <;> decide
  distinct v w := by cases v <;> cases w <;> decide

instance : LawfulSetting ControlChars where
  mem_all v := by cases v <;> decide
  distinct v w := by cases v <;> cases w <;> decide

instance : LawfulSetting Required where
  mem_all v := by cases v <;> decide
  distinct v w := by cases v <;> cases w <;> decide

/-- A word is read as the value whose keyword it is, up to the case of ASCII letters. -/
theorem Setting.parse?_eq_some_iff {α : Type} [Setting α] [LawfulSetting α] {word : String}
    {v : α} : Setting.parse? word = some v ↔ Text.sameLetters (keyword v) word := by
  have hread {w : α} (h : Setting.parse? word = some w) : Text.sameLetters (keyword w) word := by
    unfold Setting.parse? at h
    simpa using List.find?_some h
  refine ⟨hread, fun h => ?_⟩
  cases hparse : Setting.parse? (α := α) word with
  | none =>
    unfold Setting.parse? at hparse
    exact absurd h (List.find?_eq_none.1 hparse v (LawfulSetting.mem_all v))
  | some w =>
    have hsame := Text.sameLetters_iff.1 (hread hparse)
    rw [LawfulSetting.distinct v w]
    rw [Text.sameLetters_iff] at h ⊢
    exact h.trans hsame.symm

namespace Document

/-- A word, if there is one, is a keyword of a choice up to the case of ASCII letters. -/
def IsKeyword (α : Type) [Setting α] (word : Option String) : Prop :=
  ∀ w ∈ word, ∃ v : α, Text.sameLetters (keyword v) w

theorem isKeyword_some_iff {α : Type} [Setting α] [LawfulSetting α] {w : String} :
    IsKeyword α (some w) ↔ ∃ v : α, Setting.parse? w = some v := by
  simp [IsKeyword, Setting.parse?_eq_some_iff]

/-- A word says the value whose keyword it is, up to the case of ASCII letters, and without a word
no value is said. -/
def Says {α : Type} [Setting α] (word : Option String) (value : Option α) : Prop :=
  ∀ v, value = some v ↔ ∃ w ∈ word, Text.sameLetters (keyword v) w

theorem Says.unique {α : Type} [Setting α] {word : Option String} {value value' : Option α}
    (h : Says word value) (h' : Says word value') : value = value' :=
  Option.ext fun v => (h v).trans (h' v).symm

theorem says_none {α : Type} [Setting α] : Says none (none : Option α) := by
  simp [Says]

theorem says_some {α : Type} [Setting α] [LawfulSetting α] {w : String} {v : α}
    (h : Setting.parse? w = some v) : Says (some w) (some v) := by
  intro v'
  simp [← Setting.parse?_eq_some_iff, h]

/-! ## Declarations -/

/-- A declaration in a document, with the handle and the name of the package around it. -/
structure Placed (α : Type) where
  package : PackageId
  around : String
  part : α
deriving DecidableEq, Repr

/-- The name of a declaration after that of its package. -/
def Placed.qualified {α : Type} (name : α → String) (x : Placed α) : QualifiedName :=
  ⟨x.around, name x.part⟩

/-- The declarations of one kind in the order of the text. -/
def members {α : Type} (pick : PackagePart → List α) (ps : List PackagePart) : List (Placed α) :=
  ps.zipIdx.flatMap fun (p, i) => (pick p).map (.mk ⟨i⟩ p.name)

section Members

variable {α : Type} {pick : PackagePart → List α} {ps : List PackagePart}

theorem members_concat (p : PackagePart) :
    members pick (ps ++ [p]) = members pick ps ++ (pick p).map (.mk ⟨ps.length⟩ p.name) := by
  simp [members, List.zipIdx_append]

/-- The declarations before a certain one are those of the packages before its package and those
before it in there. -/
theorem exists_members_cut {all rest : List PackagePart} {p : PackagePart} {done more : List α}
    {x : α} (hall : all = ps ++ p :: rest) (hpick : pick p = done ++ x :: more) :
    ∃ after, members pick all = members pick ps ++ done.map (.mk ⟨ps.length⟩ p.name) ++
      ⟨⟨ps.length⟩, p.name, x⟩ :: after := by
  simp [members, hall, hpick, List.zipIdx_append]

theorem mem_members {x : Placed α} :
    x ∈ members pick ps ↔ ∃ p, ps[x.package.index]? = some p ∧ x.around = p.name ∧
      x.part ∈ pick p := by
  obtain ⟨⟨i⟩, around, part⟩ := x
  simp only [members, List.mem_flatMap, List.mem_map, Prod.exists, List.mem_zipIdx_iff_getElem?,
    Placed.mk.injEq, PackageId.mk.injEq]
  constructor
  · rintro ⟨p, j, hp, y, hy, rfl, rfl, rfl⟩
    exact ⟨p, hp, rfl, hy⟩
  · rintro ⟨p, hp, rfl, hy⟩
    exact ⟨p, i, hp, part, hy, rfl, rfl, rfl⟩

theorem mem_names_of_mem_members {x : Placed α} (h : x ∈ members pick ps) :
    x.around ∈ ps.map (·.name) := by
  obtain ⟨p, hp, haround, -⟩ := mem_members.1 h
  exact List.mem_map.2 ⟨p, List.mem_of_getElem? hp, haround.symm⟩

/-- Names that are distinct in each of several packages are distinct in all of them. -/
theorem nodup_qualified {name : α → String} (hps : (ps.map (·.name)).Nodup)
    (hnames : ∀ p ∈ ps, ((pick p).map name).Nodup) :
    ((members pick ps).map (·.qualified name)).Nodup := by
  induction ps using List.reverseRecOn with
  | nil => simp [members]
  | append_singleton ps p ih =>
    rw [List.map_append, List.nodup_append'] at hps
    have hold := ih hps.1 fun q hq => hnames q (List.mem_append_left _ hq)
    have hnew : ((pick p).map fun y => (⟨p.name, name y⟩ : QualifiedName)).Nodup := by
      refine List.Nodup.of_map QualifiedName.name ?_
      simpa [Function.comp_def] using hnames p (by simp)
    rw [members_concat, List.map_append, List.nodup_append']
    refine ⟨hold, by simpa [Function.comp_def, Placed.qualified] using hnew, ?_⟩
    -- A name of an earlier package has another package part.
    rw [List.disjoint_left]
    intro key hkey hkey'
    obtain ⟨x, hx, rfl⟩ := List.mem_map.1 hkey
    obtain ⟨y, hy, heq⟩ := List.mem_map.1 hkey'
    obtain ⟨z, -, rfl⟩ := List.mem_map.1 hy
    have haround : x.around = p.name := (congrArg QualifiedName.package heq).symm
    exact List.disjoint_left.1 hps.2.2 (haround ▸ mem_names_of_mem_members hx) (by simp)

end Members

def enums (d : Document) : List (Placed EnumPart) :=
  members PackagePart.enums d.packages

def typedefs (d : Document) : List (Placed TypedefPart) :=
  members PackagePart.typedefs d.packages

def classes (d : Document) : List (Placed ClassPart) :=
  members PackagePart.classes d.packages

/-- A field in a document, with its class and its place there. -/
structure PlacedField where
  owner : ClassId
  place : Nat
  around : String
  part : FieldPart
deriving DecidableEq, Repr

/-- The fields of several classes, class by class. -/
def fieldsOf (cs : List (Placed ClassPart)) : List PlacedField :=
  cs.zipIdx.flatMap fun (x, c) => x.part.fields.zipIdx.map fun (f, k) => ⟨⟨c⟩, k, x.around, f⟩

def fields (d : Document) : List PlacedField :=
  fieldsOf d.classes

theorem mem_fieldsOf {cs : List (Placed ClassPart)} {x : PlacedField} :
    x ∈ fieldsOf cs ↔ ∃ y, cs[x.owner.index]? = some y ∧ x.around = y.around ∧
      y.part.fields[x.place]? = some x.part := by
  obtain ⟨⟨c⟩, place, around, part⟩ := x
  simp only [fieldsOf, List.mem_flatMap, List.mem_map, Prod.exists, List.mem_zipIdx_iff_getElem?,
    PlacedField.mk.injEq, ClassId.mk.injEq]
  constructor
  · rintro ⟨y, i, hy, f, k, hf, rfl, rfl, rfl, rfl⟩
    exact ⟨y, hy, rfl, hf⟩
  · rintro ⟨y, hy, rfl, hf⟩
    exact ⟨y, c, hy, part, place, hf, rfl, rfl, rfl, rfl⟩

/-! ## References -/

def enumNames (d : Document) : List QualifiedName :=
  d.enums.map (·.qualified EnumPart.name)

def typedefNames (d : Document) : List QualifiedName :=
  d.typedefs.map (·.qualified TypedefPart.name)

def classNames (d : Document) : List QualifiedName :=
  d.classes.map (·.qualified ClassPart.name)

/-- The enumeration for which a reference in a package stands. -/
def enumOf? (d : Document) (around reference : String) : Option EnumId :=
  (d.enumNames.idxOf? (.ofReference around reference)).map .mk

def typedefOf? (d : Document) (around reference : String) : Option TypedefId :=
  (d.typedefNames.idxOf? (.ofReference around reference)).map .mk

def classOf? (d : Document) (around reference : String) : Option ClassId :=
  (d.classNames.idxOf? (.ofReference around reference)).map .mk

theorem idxOf?_eq_some_iff {α : Type} [DecidableEq α] {xs : List α} (h : xs.Nodup) {x : α}
    {i : Nat} : xs.idxOf? x = some i ↔ xs[i]? = some x := by
  rw [List.idxOf?_eq_some_iff, List.getElem?_eq_some_iff]
  constructor
  · rintro ⟨hi, hx, -⟩
    exact ⟨hi, hx⟩
  · rintro ⟨hi, rfl⟩
    refine ⟨hi, rfl, fun j hj heq => ?_⟩
    have := h.getElem_inj_iff.1 heq
    omega

theorem idxOf?_qualified_iff {α : Type} {xs : List (Placed α)} {name : α → String}
    (h : (xs.map (·.qualified name)).Nodup) {key : QualifiedName} {i : Nat} :
    (xs.map (·.qualified name)).idxOf? key = some i ↔
      ∃ x, xs[i]? = some x ∧ x.qualified name = key := by
  rw [idxOf?_eq_some_iff h, List.getElem?_map, Option.map_eq_some_iff]

theorem cutAtLastDot_eq_none {cs : List Char} (h : '.' ∉ cs) :
    QualifiedName.cutAtLastDot cs = none := by
  induction cs with
  | nil => rfl
  | cons c cs ih =>
    simp only [List.mem_cons, not_or] at h
    simp [QualifiedName.cutAtLastDot, ih h.2, Ne.symm h.1]

theorem ofReference_of_dotless {name : String} (h : '.' ∉ name.toList) (around : String) :
    QualifiedName.ofReference around name = ⟨around, name⟩ := by
  simp [QualifiedName.ofReference, cutAtLastDot_eq_none h]

theorem cutAtLastDot_append {after : List Char} (h : '.' ∉ after) :
    ∀ before : List Char, QualifiedName.cutAtLastDot (before ++ '.' :: after) = some (before, after)
  | [] => by simp [QualifiedName.cutAtLastDot, cutAtLastDot_eq_none h]
  | c :: before => by simp [QualifiedName.cutAtLastDot, cutAtLastDot_append h before]

/-- A name after that of a package and a dot is read as the name of something in that package. -/
theorem ofReference_of_dotted {name : String} (h : '.' ∉ name.toList) (around package : String) :
    QualifiedName.ofReference around (package ++ "." ++ name) = ⟨package, name⟩ := by
  have hchars : (package ++ "." ++ name).toList = package.toList ++ '.' :: name.toList := by simp
  simp [QualifiedName.ofReference, hchars, cutAtLastDot_append h]

/-! ## Meanings -/

/-- A block gives what the words of its part say. -/
structure DefaultsPart.Means (p : DefaultsPart) (block : Defaults) : Prop where
  visibility : Says p.visibility block.visibility
  primitiveUse : Says p.primitiveUse block.primitiveUse
  signedness : Says p.signedness block.signedness
  trimming : Says p.trimming block.trimming
  controlChars : Says p.controlChars block.controlChars
  required : Says p.required block.required

/-- A scalar is what its part says, with the enumeration that its reference names. -/
structure ElementaryPart.Means (d : Document) (around : String) (p : ElementaryPart)
    (e : Elementary) : Prop where
  name : e.name = p.name
  length : e.length = p.length
  decimals : e.decimals = p.decimals
  signedness : Says p.signedness e.signedness
  trimming : Says p.trimming e.trimming
  controlChars : Says p.controlChars e.controlChars
  enumeration : e.enumeration = p.enumeration.bind (d.enumOf? around)

/-- What a type says, unless it refers to nothing. -/
inductive TypePart.Means (d : Document) (around : String) : TypePart → TypeForm → Prop
  | elementary {p : ElementaryPart} {e : Elementary} (h : p.Means d around e) :
    Means d around (.elementary p) (.elementary e)
  | object {reference : String} {c : ClassId} (h : d.classOf? around reference = some c) :
    Means d around (.object reference) (.object c)
  | typedef {reference : String} {t : TypedefId} (h : d.typedefOf? around reference = some t) :
    Means d around (.typedef reference) (.alias t)

theorem DefaultsPart.Means.unique {p : DefaultsPart} {block block' : Defaults}
    (h : p.Means block) (h' : p.Means block') : block = block' := by
  cases block
  cases block'
  simp only [Defaults.mk.injEq]
  exact ⟨h.visibility.unique h'.visibility, h.primitiveUse.unique h'.primitiveUse,
    h.signedness.unique h'.signedness, h.trimming.unique h'.trimming,
    h.controlChars.unique h'.controlChars, h.required.unique h'.required⟩

theorem DefaultsPart.unique_of_rel {p : Option DefaultsPart} {block block' : Option Defaults}
    (h : Option.Rel Means p block) (h' : Option.Rel Means p block') : block = block' := by
  cases h with
  | none =>
    cases h'
    rfl
  | some h =>
    cases h' with
    | some h' => rw [h.unique h']

theorem ElementaryPart.Means.unique {d : Document} {around : String} {p : ElementaryPart}
    {e e' : Elementary} (h : p.Means d around e) (h' : p.Means d around e') : e = e' := by
  cases e
  cases e'
  simp only [Elementary.mk.injEq]
  exact ⟨h.name.trans h'.name.symm, h.length.trans h'.length.symm,
    h.decimals.trans h'.decimals.symm, h.signedness.unique h'.signedness,
    h.trimming.unique h'.trimming, h.controlChars.unique h'.controlChars,
    h.enumeration.trans h'.enumeration.symm⟩

theorem TypePart.Means.unique {d : Document} {around : String} {type : TypePart}
    {form form' : TypeForm} (h : type.Means d around form) (h' : type.Means d around form') :
    form = form' := by
  cases h with
  | elementary h =>
    cases h' with
    | elementary h' => rw [h.unique h']
  | object h =>
    cases h' with
    | object h' => rw [Option.some.inj (h.symm.trans h')]
  | typedef h =>
    cases h' with
    | typedef h' => rw [Option.some.inj (h.symm.trans h')]

/-- The span given with a type. Only scalars have one. -/
def TypePart.span? : TypePart → Option Span
  | .elementary p => p.span
  | _ => none

def Placed.enumDecl (x : Placed EnumPart) : EnumDecl where
  name := x.part.name
  package := some x.package
  values := x.part.values
  span := x.part.span.getD .absent

/-! ## Documents that make sense -/

@[mk_iff]
structure DefaultsPart.Acceptable (p : DefaultsPart) : Prop where
  visibility : IsKeyword Visibility p.visibility
  primitiveUse : IsKeyword PrimitiveUse p.primitiveUse
  signedness : IsKeyword Signedness p.signedness
  trimming : IsKeyword Trimming p.trimming
  controlChars : IsKeyword ControlChars p.controlChars
  required : IsKeyword Required p.required

/-- The settings are keywords and the references lead to declarations of their kind. -/
def TypePart.Acceptable (d : Document) (around : String) : TypePart → Prop
  | .elementary p =>
    IsKeyword Signedness p.signedness ∧ IsKeyword Trimming p.trimming ∧
      IsKeyword ControlChars p.controlChars ∧
      ∀ reference ∈ p.enumeration, .ofReference around reference ∈ d.enumNames
  | .object reference => .ofReference around reference ∈ d.classNames
  | .typedef reference => .ofReference around reference ∈ d.typedefNames

@[mk_iff]
structure FieldPart.Acceptable (d : Document) (around : String) (p : FieldPart) : Prop where
  type : p.type.Acceptable d around
  required : IsKeyword Required p.required

@[mk_iff]
structure ClassPart.Acceptable (d : Document) (around : String) (p : ClassPart) : Prop where
  parent : ∀ reference ∈ p.parent, .ofReference around reference ∈ d.classNames
  defaults : ∀ block ∈ p.defaults, block.Acceptable
  fields : ∀ f ∈ p.fields, f.Acceptable d around

/-- What is declared in a package, its own defaults included, does not clash. -/
@[mk_iff]
structure PackagePart.Declarable (p : PackagePart) : Prop where
  defaults : ∀ block ∈ p.defaults, block.Acceptable
  enums : (p.enums.map (·.name)).Nodup
  typedefs : (p.typedefs.map (·.name)).Nodup
  classes : (p.classes.map (·.name)).Nodup

/-- What stands in the declarations of a package makes sense. -/
@[mk_iff]
structure PackagePart.Definable (d : Document) (p : PackagePart) : Prop where
  typedefs : ∀ t ∈ p.typedefs, t.type.Acceptable d p.name
  classes : ∀ c ∈ p.classes, c.Acceptable d p.name

/-- Names are distinct, the three kinds each for itself and package by package; every setting
is a keyword; and every reference leads to a declaration, before or after it. -/
@[mk_iff]
structure Acceptable (d : Document) : Prop where
  packages : (d.packages.map (·.name)).Nodup
  declarable : ∀ p ∈ d.packages, p.Declarable
  definable : ∀ p ∈ d.packages, p.Definable d

@[mk_iff]
structure PackagePart.Dotless (p : PackagePart) : Prop where
  typedefs : ∀ t ∈ p.typedefs, '.' ∉ t.name.toList
  classes : ∀ c ∈ p.classes, '.' ∉ c.name.toList

/-- No typedef and no class has a dot in its name. -/
def Dotless (d : Document) : Prop :=
  ∀ p ∈ d.packages, p.Dotless

/-- A name with a dot, read as a reference, is not the name of another declaration. -/
structure PackagePart.Unmistakable (d : Document) (p : PackagePart) : Prop where
  typedefs : ∀ t ∈ p.typedefs, '.' ∈ t.name.toList →
    .ofReference p.name t.name ∉ d.typedefNames
  classes : ∀ c ∈ p.classes, '.' ∈ c.name.toList → .ofReference p.name c.name ∉ d.classNames

/-- No typedef and no class can be taken for another one. -/
def Unmistakable (d : Document) : Prop :=
  ∀ p ∈ d.packages, p.Unmistakable d

theorem Dotless.unmistakable {d : Document} (h : d.Dotless) : d.Unmistakable := fun p hp =>
  ⟨fun t ht hdot => absurd hdot ((h p hp).typedefs t ht),
    fun c hc hdot => absurd hdot ((h p hp).classes c hc)⟩

/-! ## The schema of a document -/

/-- A data type says what was written at its owner, and where. -/
def WrittenAs (d : Document) (dataTypes : Array DataType) (owner : TypeOwner) (around : String)
    (type : TypePart) (id : DataTypeId) : Prop :=
  ∃ form, type.Means d around form ∧
    dataTypes[id.index]? = some { form, owner, span := type.span?.getD .absent }

structure PackageMatches (p : PackagePart) (x : PackageDecl) : Prop where
  name : x.name = p.name
  defaults : Option.Rel DefaultsPart.Means p.defaults x.defaults
  span : x.span = p.span.getD .absent

theorem PackageMatches.unique {p : PackagePart} {x y : PackageDecl} (h : PackageMatches p x)
    (h' : PackageMatches p y) : x = y := by
  cases x
  cases y
  simp only [PackageDecl.mk.injEq]
  exact ⟨h.name.trans h'.name.symm, DefaultsPart.unique_of_rel h.defaults h'.defaults,
    h.span.trans h'.span.symm⟩

structure TypedefMatches (d : Document) (dataTypes : Array DataType) (i : Nat)
    (x : Placed TypedefPart) (t : TypedefDecl) : Prop where
  name : t.name = x.part.name
  package : t.package = some x.package
  span : t.span = x.part.span.getD .absent
  dataType : WrittenAs d dataTypes (.typedef ⟨i⟩) x.around x.part.type t.dataType

structure ClassMatches (d : Document) (x : Placed ClassPart) (c : ClassDecl) : Prop where
  name : c.name = x.part.name
  package : c.package = some x.package
  parent : c.parent = x.part.parent.bind (d.classOf? x.around)
  isFinal : c.isFinal = x.part.isFinal
  fields : c.fields.size = x.part.fields.length
  defaults : Option.Rel DefaultsPart.Means x.part.defaults c.defaults
  span : c.span = x.part.span.getD .absent

structure FieldMatches (d : Document) (dataTypes : Array DataType) (classes : Array ClassDecl)
    (i : Nat) (x : PlacedField) (f : FieldDecl) : Prop where
  name : f.name = x.part.name
  owner : f.owner = x.owner
  required : Says x.part.required f.required
  span : f.span = x.part.span.getD .absent
  dataType : WrittenAs d dataTypes (.field ⟨i⟩) x.around x.part.type f.dataType
  /-- The owner lists the field at its place. -/
  listed : (classes[x.owner.index]?.bind fun c => c.fields[x.place]?) = some ⟨i⟩

/-- The data type that a schema has for an owner. -/
def typeOf? (fields : Array FieldDecl) (typedefs : Array TypedefDecl) :
    TypeOwner → Option DataTypeId
  | .field f => fields[f.index]?.map (·.dataType)
  | .typedef t => typedefs[t.index]?.map (·.dataType)

/-- The schema has the declarations of the document and no others, in the same order and with
the same contents, and its references are the handles of what they name. -/
structure Describes (d : Document) (s : Schema) : Prop where
  packages : Corresponds (fun _ => PackageMatches) d.packages s.packages
  enums : s.enums.toList = d.enums.map (·.enumDecl)
  typedefs : Corresponds (TypedefMatches d s.dataTypes) d.typedefs s.typedefs
  classes : Corresponds (fun _ => ClassMatches d) d.classes s.classes
  fields : Corresponds (FieldMatches d s.dataTypes s.classes) d.fields s.fields
  dataTypes : ∀ n x, s.dataTypes[n]? = some x → typeOf? s.fields s.typedefs x.owner = some ⟨n⟩

theorem Describes.listed {d : Document} {s : Schema} (h : d.Describes s) {i : Nat}
    {x : Placed ClassPart} {c : ClassDecl} (hx : d.classes[i]? = some x)
    (hc : s.classes[i]? = some c) {k : Nat} {part : FieldPart}
    (hpart : x.part.fields[k]? = some part) :
    ∃ j f, d.fields[j]? = some ⟨⟨i⟩, k, x.around, part⟩ ∧ c.fields[k]? = some ⟨j⟩ ∧
      s.fields[j]? = some f ∧
      FieldMatches d s.dataTypes s.classes j ⟨⟨i⟩, k, x.around, part⟩ f := by
  have hmem : ⟨⟨i⟩, k, x.around, part⟩ ∈ d.fields := mem_fieldsOf.2 ⟨x, hx, rfl, hpart⟩
  obtain ⟨j, hj⟩ := List.mem_iff_getElem?.1 hmem
  obtain ⟨f, hf, hfield⟩ := h.fields.exists_right hj
  exact ⟨j, f, hj, by simpa [hc] using hfield.listed, hf, hfield⟩

end Document

end SchemaTypes
