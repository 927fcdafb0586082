/-
The first pass of a loader declares what the document declares.

`Declared` says what a loader holds when so many packages, enumerations,
typedefs and classes are declared, and each step of the pass adds one of them
or fails because its name is taken. So the pass succeeds exactly on documents
in which nothing clashes (`declare_outcome`).
-/
import SchemaTypes.Proofs.LoadOutcome
import SchemaTypes.Proofs.LoadedSchema

namespace SchemaTypes

theorem modify_push_size {α : Type} (xs : Array α) (x : α) (g : α → α) :
    (xs.push x).modify xs.size g = xs.push (g x) := by
  apply Array.ext_getElem?
  intro i
  rw [Array.getElem?_modify, Array.getElem?_push, Array.getElem?_push]
  by_cases h : xs.size = i
  · simp [h]
  · simp [h, Ne.symm h]

namespace Document

/-! ## Declarations with their places -/

section Places

variable (d : Draft) (span : Option Span)

theorem place_addPackage (name : String) :
    place (d.addPackage name).2 (.package ⟨d.packages.size⟩) span =
      { d with
        names := d.names.insert name
        packages := d.packages.push { name, span := span.getD .absent } } := by
  cases span with
  | none => rfl
  | some span => simp [place, Draft.addPackage, Draft.addName, Draft.setSpan, modify_push_size]

theorem place_addEnum (id : PackageId) (name : String) (values : List String) :
    place (d.addEnum id name values).2 (.enumDecl ⟨d.enums.size⟩) span =
      { d with
        names := (values.foldl NameTable.insert d.names).insert name
        enums := d.enums.push
          { name, package := some id, values, span := span.getD .absent } } := by
  cases span with
  | none => simp [place, Draft.addEnum, Draft.foldl_addName, Draft.addName]
  | some span =>
    simp [place, Draft.addEnum, Draft.foldl_addName, Draft.addName, Draft.setSpan,
      modify_push_size]

theorem place_addTypedef (id : PackageId) (name : String) :
    place (d.addTypedef (some id) name).2 (.typedef ⟨d.typedefs.size⟩) span =
      { d with
        names := d.names.insert name
        typedefs := d.typedefs.push { name, package := some id, span := span.getD .absent } } := by
  cases span with
  | none => rfl
  | some span => simp [place, Draft.addTypedef, Draft.addName, Draft.setSpan, modify_push_size]

theorem place_addClass (id : PackageId) (name : String) :
    place (d.addClass (some id) name).2 (.classDecl ⟨d.classes.size⟩) span =
      { d with
        names := d.names.insert name
        classes := d.classes.push { name, package := some id, span := span.getD .absent } } := by
  cases span with
  | none => rfl
  | some span => simp [place, Draft.addClass, Draft.addName, Draft.setSpan, modify_push_size]

end Places

/-! ## What is declared -/

/-- A typedef as the first pass leaves it. -/
def Placed.pending (x : Placed TypedefPart) : DraftTypedef where
  name := x.part.name
  package := some x.package
  span := x.part.span.getD .absent

/-- A class as the first pass leaves it. -/
def Placed.bare (x : Placed ClassPart) : ClassDecl where
  name := x.part.name
  package := some x.package
  span := x.part.span.getD .absent

/-- The loader holds these packages, enumerations, typedefs and classes, none of them filled,
and finds the last three kinds by their names. -/
structure Declared (ps : List PackagePart) (es : List (Placed EnumPart))
    (ts : List (Placed TypedefPart)) (cs : List (Placed ClassPart)) (l : Loader) : Prop where
  packages : Corresponds (fun _ => PackageMatches) ps l.draft.packages
  enums : l.draft.enums.toList = es.map (·.enumDecl)
  typedefs : l.draft.typedefs.toList = ts.map (·.pending)
  classes : l.draft.classes.toList = cs.map (·.bare)
  fields : l.draft.fields = #[]
  dataTypes : l.draft.dataTypes = #[]
  redefined : l.draft.redefined = none
  taken : ∀ name, name ∈ l.packages ↔ name ∈ ps.map (·.name)
  enumNames : Knows l.enums .mk (es.map (·.qualified EnumPart.name))
  typedefNames : Knows l.typedefs .mk (ts.map (·.qualified TypedefPart.name))
  classNames : Knows l.classes .mk (cs.map (·.qualified ClassPart.name))

namespace Declared

variable {ps : List PackagePart} {es : List (Placed EnumPart)} {ts : List (Placed TypedefPart)}
  {cs : List (Placed ClassPart)} {l : Loader} {package : String} {id : PackageId}

theorem empty : Declared [] [] [] [] {} where
  packages := .nil
  enums := rfl
  typedefs := rfl
  classes := rfl
  fields := rfl
  dataTypes := rfl
  redefined := rfl
  taken := by simp
  enumNames := .empty
  typedefNames := .empty
  classNames := .empty

theorem declareEnum (h : Declared ps es ts cs l) (p : EnumPart) :
    Outcome ((⟨package, p.name⟩ : QualifiedName) ∉ es.map (·.qualified EnumPart.name))
      (Declared ps (es ++ [⟨id, package, p⟩]) ts cs) (l.declareEnum package id p) := by
  have hsize : l.draft.enums.size = (es.map (·.qualified EnumPart.name)).length := by
    rw [← Array.length_toList, h.enums, List.length_map, List.length_map]
  have henter := h.enumNames.enter_outcome .enumeration ⟨package, p.name⟩
  rw [← hsize] at henter
  unfold Loader.declareEnum
  refine henter.map fun enums henums => ?_
  have hplaced := congrArg (fun draft : Draft => ({ l with draft, enums } : Loader))
    (place_addEnum l.draft p.span id p.name p.values)
  refine ⟨_, congrArg Except.ok hplaced, ?_⟩
  refine { h with enums := ?_, enumNames := ?_ }
  · simp [h.enums, Placed.enumDecl]
  · simpa [Placed.qualified] using henums

theorem declareTypedef (h : Declared ps es ts cs l) (p : TypedefPart) :
    Outcome ((⟨package, p.name⟩ : QualifiedName) ∉ ts.map (·.qualified TypedefPart.name))
      (Declared ps es (ts ++ [⟨id, package, p⟩]) cs) (l.declareTypedef package id p) := by
  have hsize : l.draft.typedefs.size = (ts.map (·.qualified TypedefPart.name)).length := by
    rw [← Array.length_toList, h.typedefs, List.length_map, List.length_map]
  have henter := h.typedefNames.enter_outcome .typedef ⟨package, p.name⟩
  rw [← hsize] at henter
  unfold Loader.declareTypedef
  refine henter.map fun typedefs htypedefs => ?_
  have hplaced := congrArg (fun draft : Draft => ({ l with draft, typedefs } : Loader))
    (place_addTypedef l.draft p.span id p.name)
  refine ⟨_, congrArg Except.ok hplaced, ?_⟩
  refine { h with typedefs := ?_, typedefNames := ?_ }
  · simp [h.typedefs, Placed.pending]
  · simpa [Placed.qualified] using htypedefs

theorem declareClass (h : Declared ps es ts cs l) (p : ClassPart) :
    Outcome ((⟨package, p.name⟩ : QualifiedName) ∉ cs.map (·.qualified ClassPart.name))
      (Declared ps es ts (cs ++ [⟨id, package, p⟩])) (l.declareClass package id p) := by
  have hsize : l.draft.classes.size = (cs.map (·.qualified ClassPart.name)).length := by
    rw [← Array.length_toList, h.classes, List.length_map, List.length_map]
  have henter := h.classNames.enter_outcome .classDecl ⟨package, p.name⟩
  rw [← hsize] at henter
  unfold Loader.declareClass
  refine henter.map fun classes hclasses => ?_
  have hplaced := congrArg (fun draft : Draft => ({ l with draft, classes } : Loader))
    (place_addClass l.draft p.span id p.name)
  refine ⟨_, congrArg Except.ok hplaced, ?_⟩
  refine { h with classes := ?_, classNames := ?_ }
  · simp [h.classes, Placed.bare]
  · simpa [Placed.qualified] using hclasses

theorem declareHead (h : Declared ps es ts cs l) (p : PackagePart) :
    Outcome (p.name ∉ ps.map (·.name) ∧ ∀ block ∈ p.defaults, block.Acceptable)
      (fun r => r.1 = ⟨ps.length⟩ ∧ Declared (ps ++ [p]) es ts cs r.2) (l.declareHead p) := by
  have hsize : l.draft.packages.size = ps.length := h.packages.size_eq
  simp only [Loader.declareHead_eq, place_addPackage]
  split
  · next htaken => exact .error (fun hok => hok.1 ((h.taken _).1 htaken)) (by simp)
  · next hfree =>
    have hname : p.name ∉ ps.map (·.name) := fun hmem => hfree ((h.taken _).2 hmem)
    split
    · next hdefaults =>
      refine .ok ⟨hname, by simp [hdefaults]⟩ ⟨by rw [hsize], ?_⟩
      refine { h with packages := ?_, taken := fun name => ?_ }
      · exact h.packages.push ⟨rfl, hdefaults ▸ .none, rfl⟩
      · simp [h.taken, eq_comm, or_comm]
    · next block hdefaults =>
      have hblock : (∀ b ∈ p.defaults, b.Acceptable) ↔ block.Acceptable := by simp [hdefaults]
      rw [and_iff_right hname, hblock]
      refine (defaultsOf_outcome block).map fun defaults hmeans => ⟨_, rfl, by rw [hsize], ?_⟩
      refine { h with packages := ?_, taken := fun name => ?_ }
      · simp only [Draft.setPackageDefaults, modify_push_size]
        exact h.packages.push ⟨rfl, hdefaults ▸ .some hmeans, rfl⟩
      · simp [h.taken, eq_comm, or_comm]

section Package

variable {p : PackagePart}

/-- In a package with a new name, a name is new if the package has not declared it before. -/
theorem fresh_iff {α : Type} {pick : PackagePart → List α} {name : α → String}
    (hp : p.name ∉ ps.map (·.name)) {done : List α} {x : α} (hdone : (done.map name).Nodup) :
    (⟨p.name, name x⟩ : QualifiedName) ∉
        (members pick ps ++ done.map (Placed.mk id p.name)).map (·.qualified name) ↔
      ((done ++ [x]).map name).Nodup := by
  have hold : (⟨p.name, name x⟩ : QualifiedName) ∉
      (members pick ps).map (·.qualified name) := by
    intro hmem
    obtain ⟨y, hy, heq⟩ := List.mem_map.1 hmem
    have haround : y.around = p.name := congrArg QualifiedName.package heq
    exact hp (haround ▸ mem_names_of_mem_members hy)
  have hnew : (⟨p.name, name x⟩ : QualifiedName) ∈
      (done.map (Placed.mk id p.name)).map (·.qualified name) ↔ name x ∈ done.map name := by
    simp [Placed.qualified]
  rw [List.map_append, List.mem_append, not_or, and_iff_right hold, hnew, List.map_append,
    List.map_singleton, ← List.concat_eq_append, List.nodup_concat]
  simp [hdone]

/-- One kind of declarations of a new package: they are declared if their names are distinct. -/
theorem declareAll {α : Type} {pick : PackagePart → List α} {name : α → String}
    {declare : Loader → α → Except LoadFault Loader} (state : List (Placed α) → Loader → Prop)
    (hp : p.name ∉ ps.map (·.name)) (h : state (members pick ps) l)
    (hdeclare : ∀ xs l x, state xs l →
      Outcome ((⟨p.name, name x⟩ : QualifiedName) ∉ xs.map (·.qualified name))
        (state (xs ++ [⟨id, p.name, x⟩])) (declare l x)) :
    Outcome ((pick p).map name).Nodup
      (state (members pick ps ++ (pick p).map (Placed.mk id p.name)))
      ((pick p).foldlM declare l) := by
  refine Outcome.foldlM (fun done => (done.map name).Nodup)
    (fun done => state (members pick ps ++ done.map (Placed.mk id p.name)))
    (fun done x hdone => ?_) List.nodup_nil (by simpa using h) fun done x rest l _ hdone hl => ?_
  · rw [List.map_append] at hdone
    exact hdone.of_append_left
  · simpa using (hdeclare _ l x hl).congr (fresh_iff hp hdone)

theorem declarePackage (h : Declared ps (members PackagePart.enums ps)
      (members PackagePart.typedefs ps) (members PackagePart.classes ps) l) :
    Outcome (p.name ∉ ps.map (·.name) ∧ p.Declarable)
      (Declared (ps ++ [p]) (members PackagePart.enums (ps ++ [p]))
        (members PackagePart.typedefs (ps ++ [p])) (members PackagePart.classes (ps ++ [p])))
      (l.declarePackage p) := by
  rw [PackagePart.declarable_iff, ← and_assoc]
  unfold Loader.declarePackage
  refine (h.declareHead p).bind fun ⟨id, l₁⟩ ⟨hname, _⟩ ⟨hid, h₁⟩ => ?_
  obtain rfl : id = ⟨ps.length⟩ := hid
  simp only [members_concat]
  refine (declareAll (fun es => Declared (ps ++ [p]) es _ _) hname h₁
    fun es l x hl => hl.declareEnum x).bind fun l₂ _ h₂ => ?_
  refine (declareAll (fun ts => Declared (ps ++ [p]) _ ts _) hname h₂
    fun ts l x hl => hl.declareTypedef x).bind fun l₃ _ h₃ => ?_
  exact declareAll (fun cs => Declared (ps ++ [p]) _ _ cs) hname h₃
    fun cs l x hl => hl.declareClass x

end Package

end Declared

/-- The first pass succeeds if nothing clashes, and declares what the document declares. -/
theorem declare_outcome (d : Document) :
    Outcome ((d.packages.map (·.name)).Nodup ∧ ∀ p ∈ d.packages, p.Declarable)
      (Declared d.packages d.enums d.typedefs d.classes)
      (d.packages.foldlM Loader.declarePackage {}) := by
  refine Outcome.foldlM
    (fun ps => (ps.map (·.name)).Nodup ∧ ∀ p ∈ ps, p.Declarable)
    (fun ps => Declared ps (members PackagePart.enums ps) (members PackagePart.typedefs ps)
      (members PackagePart.classes ps)) (fun ps p hps => ?_) (by simp) .empty
    fun ps p rest l _ hps hl => ?_
  · rw [List.map_append] at hps
    exact ⟨hps.1.of_append_left, fun q hq => hps.2 q (List.mem_append_left _ hq)⟩
  · refine hl.declarePackage.congr ?_
    rw [List.map_append, List.map_singleton, ← List.concat_eq_append, List.nodup_concat]
    simp only [List.forall_mem_append, List.forall_mem_singleton, hps.1, and_true]
    exact and_congr_right fun _ => (and_iff_right hps.2).symm

end Document

end SchemaTypes
