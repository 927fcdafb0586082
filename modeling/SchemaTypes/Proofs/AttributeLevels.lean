/-
From which level each attribute of an elementary data type comes.

The levels are listed as they are: the data type itself, where it has a say,
the block of the class around it, where there is a class, the block of the
package, and the value that holds if nothing else does. An attribute is the
first value set on its own levels (`Attributes.ChosenFrom`), so it does not
see what the blocks say of other attributes, and a block that leaves it open
is as good as none (`Attributes.AgreesWithin`).
-/
import SchemaTypes.Proofs.ElementaryTarget
import Mathlib.Data.List.ReduceOption

namespace SchemaTypes

/-! ## The first value set -/

/-- A value is set on some level, and nothing is set on the levels before. -/
def IsFirst {α : Type} (levels : List (Option α)) (v : α) : Prop :=
  ∃ before after, levels = before ++ some v :: after ∧ ∀ x ∈ before, x = none

theorem isFirst_iff {α : Type} {levels : List (Option α)} {v : α} :
    IsFirst levels v ↔ levels.reduceOption.head? = some v := by
  rw [List.reduceOption, List.head?_filterMap, List.findSome?_eq_some_iff]
  simp [IsFirst]

/-- Where a last level is always set, there is a first value. -/
theorem isFirst_append_iff {α : Type} {levels : List (Option α)} {fallback v : α} :
    IsFirst (levels ++ [some fallback]) v ↔ levels.reduceOption.head?.getD fallback = v := by
  rw [isFirst_iff, List.reduceOption_append]
  cases levels.reduceOption <;> simp [List.reduceOption]

/-- What several blocks set for one attribute. -/
def settings {α : Type} (pick : Defaults → Option α) (blocks : List (Option Defaults)) :
    List (Option α) :=
  blocks.map (·.bind pick)

/-! ## The blocks around a data type -/

/-- The blocks inside of the package that a data type stands in, and that package: the block of
the class whose field owns the data type, and none for the data type of a typedef. -/
inductive Schema.Around (s : Schema) (id : DataTypeId) :
    List (Option Defaults) → Option PackageId → Prop
  | field {d : DataType} {f : FieldId} {fd : FieldDecl} {cd : ClassDecl}
    (hd : s.dataType? id = some d) (howner : d.owner = .field f) (hf : s.field? f = some fd)
    (hc : s.class? fd.owner = some cd) : Around s id [cd.defaults] cd.package
  | typedef {d : DataType} {t : TypedefId} {td : TypedefDecl} (hd : s.dataType? id = some d)
    (howner : d.owner = .typedef t) (ht : s.typedef? t = some td) : Around s id [] td.package

/-- An elementary data type gets its attributes, with these blocks around it. -/
def Schema.Merges (s : Schema) (id : DataTypeId) (e : Elementary)
    (blocks : List (Option Defaults)) (a : Attributes) : Prop :=
  ∃ inner p pd, s.Around id inner (some p) ∧ s.package? p = some pd ∧
    blocks = inner ++ [pd.defaults] ∧ Attributes.ofDataType s id e = some (.ok a)

namespace Attributes

/-- Each attribute is the first value set on its levels. -/
structure ChosenFrom (e : Elementary) (blocks : List (Option Defaults)) (a : Attributes) :
    Prop where
  signed : ∃ v, IsFirst (e.signedness :: settings (·.signedness) blocks ++ [some .signed]) v ∧
    (a.signed ↔ v = .signed)
  trim : ∃ v, IsFirst (e.trimming :: settings (·.trimming) blocks ++ [some .noTrim]) v ∧
    (a.trim ↔ v = .trim)
  allowControlChars : ∃ v,
    IsFirst (e.controlChars :: settings (·.controlChars) blocks ++ [some .allow]) v ∧
    (a.allowControlChars ↔ v = .allow)
  visibility : IsFirst (settings (·.visibility) blocks ++ [some .byDefault]) a.visibility
  primitiveUse : IsFirst (settings (·.primitiveUse) blocks ++ [some .primitives]) a.primitiveUse
  required : ∀ v, a.required = some v ↔ IsFirst (settings (·.required) blocks) v

/-- Each attribute is the same on both sides where the values set for it are: levels on which it
is not set do not count, nor does what is set for other attributes. -/
structure AgreesWithin (e e' : Elementary) (blocks blocks' : List (Option Defaults))
    (a a' : Attributes) : Prop where
  signed : (e.signedness :: settings (·.signedness) blocks).reduceOption =
    (e'.signedness :: settings (·.signedness) blocks').reduceOption → a.signed = a'.signed
  trim : (e.trimming :: settings (·.trimming) blocks).reduceOption =
    (e'.trimming :: settings (·.trimming) blocks').reduceOption → a.trim = a'.trim
  allowControlChars : (e.controlChars :: settings (·.controlChars) blocks).reduceOption =
    (e'.controlChars :: settings (·.controlChars) blocks').reduceOption →
      a.allowControlChars = a'.allowControlChars
  visibility : (settings (·.visibility) blocks).reduceOption =
    (settings (·.visibility) blocks').reduceOption → a.visibility = a'.visibility
  primitiveUse : (settings (·.primitiveUse) blocks).reduceOption =
    (settings (·.primitiveUse) blocks').reduceOption → a.primitiveUse = a'.primitiveUse
  required : (settings (·.required) blocks).reduceOption =
    (settings (·.required) blocks').reduceOption → a.required = a'.required

end Attributes

/-- What a cascade holds are these blocks. -/
def Cascade.Holds (c : Cascade) (blocks : List (Option Defaults)) : Prop :=
  ∀ {α : Type} (pick : Defaults → Option α),
    (c.inClass.bind pick).or (c.inPackage.bind pick) = (settings pick blocks).reduceOption.head?

namespace Cascade.Holds

variable {c c' : Cascade} {blocks blocks' : List (Option Defaults)} {e e' : Elementary}
  {α : Type} {pick : Defaults → Option α}

theorem first_none (h : c.Holds blocks) :
    c.first none pick = (settings pick blocks).reduceOption.head? := by
  rw [Cascade.first, Option.none_or, h]

theorem first_own (h : c.Holds blocks) (own : Option α) :
    c.first own pick = (own :: settings pick blocks).reduceOption.head? := by
  rw [Cascade.first, h]
  cases own <;> simp [List.reduceOption]

theorem chosenFrom (h : c.Holds blocks) (e : Elementary) :
    (Attributes.ofCascade c e).ChosenFrom e blocks where
  signed := ⟨_, isFirst_append_iff.2 rfl, by simp [Attributes.ofCascade, h.first_own]⟩
  trim := ⟨_, isFirst_append_iff.2 rfl, by simp [Attributes.ofCascade, h.first_own]⟩
  allowControlChars := ⟨_, isFirst_append_iff.2 rfl, by simp [Attributes.ofCascade, h.first_own]⟩
  visibility := isFirst_append_iff.2 (by simp [Attributes.ofCascade, h.first_none])
  primitiveUse := isFirst_append_iff.2 (by simp [Attributes.ofCascade, h.first_none])
  required v := by rw [isFirst_iff, ← h.first_none]; rfl

theorem agreesWithin (h : c.Holds blocks) (h' : c'.Holds blocks') (e e' : Elementary) :
    (Attributes.ofCascade c e).AgreesWithin e e' blocks blocks'
      (Attributes.ofCascade c' e') where
  signed hsame := by simp [Attributes.ofCascade, h.first_own, h'.first_own, hsame]
  trim hsame := by simp [Attributes.ofCascade, h.first_own, h'.first_own, hsame]
  allowControlChars hsame := by simp [Attributes.ofCascade, h.first_own, h'.first_own, hsame]
  visibility hsame := by simp [Attributes.ofCascade, h.first_none, h'.first_none, hsame]
  primitiveUse hsame := by simp [Attributes.ofCascade, h.first_none, h'.first_none, hsame]
  required hsame := by simp [Attributes.ofCascade, h.first_none, h'.first_none, hsame]

end Cascade.Holds

/-! ## The attributes of a data type -/

namespace Schema

variable {s : Schema} {id : DataTypeId} {e : Elementary} {inner : List (Option Defaults)}
  {package : Option PackageId}

theorem Closed.exists_around (h : s.Closed) {d : DataType} (hd : s.dataType? id = some d) :
    ∃ inner package, s.Around id inner package ∧
      ∀ p, package = some p → ∃ pd, s.package? p = some pd := by
  have howner := h.dataType_owner hd
  cases hform : d.owner with
  | field f =>
    rw [hform] at howner
    obtain ⟨fd, hfd⟩ := exists_field howner
    obtain ⟨cd, hcd⟩ := h.field_owner hfd
    exact ⟨_, _, .field hd hform hfd hcd, fun _ => h.class_package hcd⟩
  | typedef t =>
    rw [hform] at howner
    obtain ⟨td, htd⟩ := exists_typedef howner
    exact ⟨_, _, .typedef hd hform htd, fun _ => h.typedef_package htd⟩

namespace Around

theorem ofDataType_none (h : s.Around id inner none) {d : DataType}
    (hd : s.dataType? id = some d) :
    Attributes.ofDataType s id e = some (.error ⟨.missingPackage, e.name, d.span⟩) := by
  have hcascade : Cascade.ofDataType s id = some none := by
    generalize hp : (none : Option PackageId) = package at h
    cases h with
    | field hd howner hf hc =>
      simp [Cascade.ofDataType, hd, howner, hf, hc, ← hp, Cascade.inside]
    | typedef hd howner ht => simp [Cascade.ofDataType, hd, howner, ht, ← hp, Cascade.inside]
  simp [Attributes.ofDataType, hcascade, hd]

theorem ofDataType_some {p : PackageId} {pd : PackageDecl} (h : s.Around id inner (some p))
    (hp : s.package? p = some pd) : ∃ c : Cascade, c.Holds (inner ++ [pd.defaults]) ∧
      Attributes.ofDataType s id e = some (.ok (.ofCascade c e)) := by
  generalize hpackage : some p = package at h
  cases h with
  | @field d f fd cd hd howner hf hc =>
    refine ⟨⟨cd.defaults, pd.defaults⟩, fun pick => ?_, ?_⟩
    · cases hin : cd.defaults.bind pick <;> cases hout : pd.defaults.bind pick <;>
        simp [settings, List.reduceOption, hin, hout]
    · simp [Attributes.ofDataType, Cascade.ofDataType, hd, howner, hf, hc, ← hpackage,
        Cascade.inside, hp]
  | typedef hd howner ht =>
    refine ⟨⟨none, pd.defaults⟩, fun pick => ?_, ?_⟩
    · cases hout : pd.defaults.bind pick <;> simp [settings, List.reduceOption, hout]
    · simp [Attributes.ofDataType, Cascade.ofDataType, hd, howner, ht, ← hpackage,
        Cascade.inside, hp]

end Around

/-- The attributes that a data type gets are those of a cascade with the blocks around it. -/
theorem Merges.exists_cascade {blocks : List (Option Defaults)} {a : Attributes}
    (h : s.Merges id e blocks a) : ∃ c : Cascade, c.Holds blocks ∧ a = .ofCascade c e := by
  obtain ⟨inner, p, pd, haround, hp, rfl, ha⟩ := h
  obtain ⟨c, hc, hc'⟩ := haround.ofDataType_some (e := e) hp
  exact ⟨c, hc, Except.ok.inj (Option.some.inj (ha.symm.trans hc'))⟩

/-- **Where the attributes of a scalar come from.** It has attributes unless the class or typedef
that it belongs to is outside of any package, and then it fails for that. Each attribute is the
first value set on its own levels, and settings of other attributes, blocks that leave it open
and levels without a block do not show in it. -/
theorem attributes_of_levels (h : s.WellFormed) {d : DataType} (hd : s.dataType? id = some d)
    (e : Elementary) : ∃ inner package, s.Around id inner package ∧
      (Attributes.ofDataType s id e = some (.error ⟨.missingPackage, e.name, d.span⟩) ↔
        package = none) ∧
      ∀ p, package = some p → ∃ pd a, s.package? p = some pd ∧
        s.Merges id e (inner ++ [pd.defaults]) a ∧ a.ChosenFrom e (inner ++ [pd.defaults]) ∧
        ∀ (s' : Schema) id' e' blocks' a', s'.Merges id' e' blocks' a' →
          a.AgreesWithin e e' (inner ++ [pd.defaults]) blocks' a' := by
  obtain ⟨inner, package, haround, hpackage⟩ := h.closed.exists_around hd
  refine ⟨inner, package, haround, ⟨fun hfails => ?_, fun hnone => ?_⟩, fun p hp => ?_⟩
  · cases package with
    | none => rfl
    | some p =>
      obtain ⟨pd, hpd⟩ := hpackage p rfl
      obtain ⟨c, -, hc⟩ := haround.ofDataType_some (e := e) hpd
      cases hfails.symm.trans hc
  · subst hnone
    exact haround.ofDataType_none hd
  · subst hp
    obtain ⟨pd, hpd⟩ := hpackage p rfl
    obtain ⟨c, hc, ha⟩ := haround.ofDataType_some (e := e) hpd
    refine ⟨pd, _, hpd, ⟨inner, p, pd, haround, hpd, rfl, ha⟩, hc.chosenFrom e, ?_⟩
    intro s' id' e' blocks' a' hmerges
    obtain ⟨c', hc', rfl⟩ := hmerges.exists_cascade
    exact hc.agreesWithin hc' e e'

example (block : Option Defaults) : (settings (·.trimming) [some {}, block]).reduceOption =
    (settings (·.trimming) [block]).reduceOption := rfl

/-! ## A data type on three levels -/

/-- In package `p`, whose block says `private` and `trim`, class `C` has a block that says
`public` and no more, and a field of type `decimal` that is `unsigned`. -/
def layeredCalls : List Draft.Call :=
  [.addPackage "p",
   .setPackageDefaults ⟨0⟩ { visibility := some .isPrivate, trimming := some .trim },
   .addClass (some ⟨0⟩) "C", .setClassDefaults ⟨0⟩ { visibility := some .isPublic },
   .addField ⟨0⟩ "x" (.elementary { name := "decimal", signedness := some .unsigned })]

def layered : Schema where
  names := ["p", "C", "x"].foldl NameTable.insert .empty
  packages :=
    #[{ name := "p", defaults := some { visibility := some .isPrivate, trimming := some .trim } }]
  classes :=
    #[{ name := "C", package := some ⟨0⟩, fields := #[⟨0⟩],
        defaults := some { visibility := some .isPublic } }]
  fields := #[{ name := "x", owner := ⟨0⟩, dataType := ⟨0⟩ }]
  typedefs := #[]
  enums := #[]
  dataTypes :=
    #[{ form := .elementary { name := "decimal", signedness := some .unsigned },
        owner := .field ⟨0⟩ }]

theorem layered_wellFormed : layered.WellFormed where
  drafted := ⟨layeredCalls, _, rfl, rfl⟩
  closed := by decide

/-- The visibility is that of the class, the trimming that of the package, since the block of the
class leaves it open, and the data type itself is unsigned. -/
theorem attributes_of_levels_layered : layered.WellFormed ∧ ∃ d e a,
    layered.dataType? ⟨0⟩ = some d ∧ d.form = .elementary e ∧
    Attributes.ofDataType layered ⟨0⟩ e = some (.ok a) ∧
    a.visibility = .isPublic ∧ a.trim = true ∧ a.signed = false := by
  have hdecimal : layered.dataType? ⟨0⟩ = some _ := rfl
  obtain ⟨inner, package, haround, -, hall⟩ := attributes_of_levels layered_wellFormed hdecimal
    { name := "decimal", signedness := some .unsigned }
  cases haround with
  | typedef hd howner ht =>
    obtain rfl := Option.some.inj hd
    cases howner
  | field hd howner hf hc =>
    obtain rfl := Option.some.inj hd
    obtain rfl := TypeOwner.field.inj howner
    obtain rfl := Option.some.inj hf
    obtain rfl := Option.some.inj hc
    obtain ⟨pd, a, hpd, ⟨-, -, -, -, -, -, ha⟩, hchosen, -⟩ := hall ⟨0⟩ rfl
    obtain rfl := Option.some.inj hpd
    refine ⟨layered_wellFormed, _, _, a, rfl, rfl, ha, ?_, ?_, ?_⟩
    · have hfirst := isFirst_iff.1 hchosen.visibility
      exact (Option.some.inj hfirst).symm
    · obtain ⟨v, hv, htrim⟩ := hchosen.trim
      exact htrim.2 (Option.some.inj (isFirst_iff.1 hv)).symm
    · obtain ⟨v, hv, hsigned⟩ := hchosen.signed
      obtain rfl := Option.some.inj (isFirst_iff.1 hv)
      simpa using hsigned

end Schema

end SchemaTypes
