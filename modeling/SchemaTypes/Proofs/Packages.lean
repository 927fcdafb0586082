/-
The packages around classes, typedefs and enumerations.

A declaration has the package that the call which makes it names, and no other
call touches it. So if every class and typedef is declared in a package, every
declaration is in one, in the draft and in the schema that it is finished into
(`Draft.Packaged.finish`), and what is written in a field or typedef is inside
of a package (`Packaged.cascade_ne_none`): no data type fails for the lack of
one (`Packaged.cause_ne`).
-/
import SchemaTypes.Proofs.DraftHandles
import SchemaTypes.Proofs.TypedefChain

namespace SchemaTypes

/-! ## Schemas -/

namespace Schema

/-- Every class, typedef and enumeration of the schema is in a package. -/
structure Packaged (s : Schema) : Prop where
  classes : ∀ c ∈ s.classes, c.package.isSome
  typedefs : ∀ t ∈ s.typedefs, t.package.isSome
  enums : ∀ e ∈ s.enums, e.package.isSome

variable {s : Schema} {x : DataTypeId}

theorem inside_ne_none {inClass : Option Defaults} {package : Option PackageId}
    (h : package.isSome) : Cascade.inside s inClass package ≠ some none := by
  obtain ⟨p, rfl⟩ := Option.isSome_iff_exists.1 h
  cases hp : s.package? p <;> simp [Cascade.inside, hp]

theorem Packaged.cascade_ne_none (h : s.Packaged) (x : DataTypeId) :
    Cascade.ofDataType s x ≠ some none := by
  intro hcascade
  simp only [Cascade.ofDataType, Option.bind_eq_bind, Option.bind_eq_some_iff] at hcascade
  obtain ⟨d, -, hcascade⟩ := hcascade
  cases howner : d.owner with
  | field f =>
    simp only [howner, Option.bind_eq_some_iff] at hcascade
    obtain ⟨fd, -, c, hc, hcascade⟩ := hcascade
    exact inside_ne_none (h.classes c (Array.mem_of_getElem? hc)) hcascade
  | typedef t =>
    simp only [howner, Option.bind_eq_some_iff] at hcascade
    obtain ⟨td, htd, hcascade⟩ := hcascade
    exact inside_ne_none (h.typedefs td (Array.mem_of_getElem? htd)) hcascade

theorem Packaged.cause_ne (h : s.Packaged) {failure : Failure}
    (hanswer : s.Answers x (.error failure)) : failure.cause ≠ .missingPackage := by
  intro hcause
  cases hanswer with
  | circular => cases hcause
  | failed way ending =>
    cases ending with
    | failing hd hform hfails =>
      rcases elementaryTarget_cause hfails with ⟨-, hcascade⟩ | hother | hother
      · exact h.cascade_ne_none _ hcascade
      · cases hcause.symm.trans hother
      · cases hcause.symm.trans hother

end Schema

/-! ## Drafts -/

namespace Draft

/-- A call that declares a class or a typedef names a package for it. -/
def Call.Packaged : Call → Prop
  | .addClass package _ | .addTypedef package _ => package.isSome
  | _ => True

/-- Every class, typedef and enumeration of the draft is in a package. -/
structure Packaged (d : Draft) : Prop where
  classes : ∀ c ∈ d.classes, c.package.isSome
  typedefs : ∀ t ∈ d.typedefs, t.package.isSome
  enums : ∀ e ∈ d.enums, e.package.isSome

namespace Packaged

variable {d : Draft}

theorem empty : Packaged .empty where
  classes := by simp [Draft.empty]
  typedefs := by simp [Draft.empty]
  enums := by simp [Draft.empty]

theorem congr {d' : Draft} (h : d.Packaged)
    (hclasses : ∀ i : Nat,
      d'.classes[i]?.map ClassDecl.package = d.classes[i]?.map ClassDecl.package)
    (htypedefs : ∀ i : Nat,
      d'.typedefs[i]?.map DraftTypedef.package = d.typedefs[i]?.map DraftTypedef.package)
    (henums : ∀ i : Nat, d'.enums[i]?.map EnumDecl.package = d.enums[i]?.map EnumDecl.package) :
    d'.Packaged where
  classes := forall_mem_of_map_getElem? (P := fun package => package.isSome) h.classes hclasses
  typedefs := forall_mem_of_map_getElem? (P := fun package => package.isSome) h.typedefs htypedefs
  enums := forall_mem_of_map_getElem? (P := fun package => package.isSome) h.enums henums

theorem perform (h : d.Packaged) {c : Call} (hc : c.Packaged) : (d.perform c).Packaged := by
  cases c with
  | addName | addPackage | setPackageDefaults | setRequired =>
    exact ⟨h.classes, h.typedefs, h.enums⟩
  | addClass package name =>
    exact ⟨Array.forall_mem_push.2 ⟨hc, h.classes⟩, h.typedefs, h.enums⟩
  | addTypedef package name =>
    exact ⟨h.classes, Array.forall_mem_push.2 ⟨hc, h.typedefs⟩, h.enums⟩
  | addEnum package name values =>
    simp only [Draft.perform, addEnum, foldl_addName, addName]
    exact ⟨h.classes, h.typedefs, Array.forall_mem_push.2 ⟨rfl, h.enums⟩⟩
  | addField | setParent | setFinal | setClassDefaults =>
    refine h.congr (fun i => ?_) (fun _ => rfl) fun _ => rfl
    exact map_getElem?_modify _ _ _ _ _ fun _ => rfl
  | define t form =>
    simp only [Draft.perform, define, addDataType]
    split
    · exact ⟨h.classes, h.typedefs, h.enums⟩
    · split
      · exact ⟨h.classes, h.typedefs, h.enums⟩
      · refine h.congr (fun _ => rfl) (fun i => ?_) fun _ => rfl
        exact map_getElem?_modify _ _ _ _ _ fun _ => rfl
  | setSpan node span =>
    cases node with
    | package | field | dataType => exact ⟨h.classes, h.typedefs, h.enums⟩
    | classDecl =>
      refine h.congr (fun i => ?_) (fun _ => rfl) fun _ => rfl
      exact map_getElem?_modify _ _ _ _ _ fun _ => rfl
    | typedef =>
      refine h.congr (fun _ => rfl) (fun i => ?_) fun _ => rfl
      exact map_getElem?_modify _ _ _ _ _ fun _ => rfl
    | enumDecl =>
      refine h.congr (fun _ => rfl) (fun _ => rfl) fun i => ?_
      exact map_getElem?_modify _ _ _ _ _ fun _ => rfl

theorem finish (h : d.Packaged) {s : Schema} (hs : d.finish = .ok s) : s.Packaged := by
  obtain ⟨-, htypedefs, heq⟩ := Schema.finish_eq_ok_iff.1 hs
  refine ⟨?_, fun t ht => h.typedefs (unfinished t) ?_, ?_⟩
  · rw [heq]
    exact h.classes
  · rw [htypedefs]
    exact Array.mem_map_of_mem ht
  · rw [heq]
    exact h.enums

end Packaged

end Draft

end SchemaTypes
