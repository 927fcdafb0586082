/-
What the data types of a schema answer when one elementary type has got
another name for the same kind, one in upper case.

All that an answer depends on is what the name denotes. So each data type
answers as before: where there was a target there is one, and a failure has the
same cause and place (`answer?_respell`). Only the exchanged type itself becomes
another target, the boxed form of the old one (`elementaryTarget_respell`).
-/
import SchemaTypes.Proofs.CapitalizedNames
import SchemaTypes.Proofs.FreshCheck
import SchemaTypes.Proofs.RespelledSchema
import SchemaTypes.Proofs.TargetDependence

namespace SchemaTypes

/-- A target is the boxed form of another one. -/
structure ElementaryTarget.Boxes (old new : ElementaryTarget) : Prop where
  kind : new.kind = old.kind
  representation : new.representation = old.representation
  length : new.length = old.length
  decimals : new.decimals = old.decimals
  enumeration : new.enumeration = old.enumeration
  attributes : new.attributes = old.attributes
  capitalized : new.capitalized = true
  notPrimitive : new.primitiveCapable = false

/-- What a scalar under one name and the same scalar under another one come to: the other target is
the boxed form of the one, or both fail for the same reason at the same place. -/
inductive Boxed (text text' : String) (span : Span) :
    Except Failure ElementaryTarget → Except Failure ElementaryTarget → Prop
  | ok {old new : ElementaryTarget} (h : old.Boxes new) : Boxed text text' span (.ok old) (.ok new)
  | error (cause : FailureCause) :
    Boxed text text' span (.error ⟨cause, text, span⟩) (.error ⟨cause, text', span⟩)

/-- What an answer fails for, and where, without the name that the failure gives. -/
def failureSite? {α : Type} : Except Failure α → Option (FailureCause × Span)
  | .ok _ => none
  | .error failure => some (failure.cause, failure.span)

namespace Schema

variable {s : Schema} {x y z : DataTypeId} {name : String}

/-! ## Look-ups -/

theorem dataType?_respell (s : Schema) (x : DataTypeId) (name : String) (z : DataTypeId) :
    (s.respell x name).dataType? z =
      if x = z then (s.dataType? z).map (·.respell name) else s.dataType? z := by
  have hiff : x.index = z.index ↔ x = z := ⟨fun h => by cases x; cases z; simp_all, congrArg _⟩
  simp only [dataType?, respell, Array.getElem?_modify, hiff]

theorem dataType?_respell_self {d : DataType} (hd : s.dataType? x = some d) (name : String) :
    (s.respell x name).dataType? x = some (d.respell name) := by
  rw [dataType?_respell, if_pos rfl, hd, Option.map_some]

theorem alias?_respell (z : DataTypeId) : (s.respell x name).alias? z = s.alias? z := by
  rw [alias?, alias?, dataType?_respell]
  split
  · cases s.dataType? z with
    | none => rfl
    | some d =>
      obtain ⟨form, owner, span⟩ := d
      cases form <;> rfl
  · rfl

theorem aliased?_respell : (s.respell x name).aliased? = s.aliased? := by
  funext z
  simp only [aliased?, alias?_respell]
  rfl

theorem cascade_respell (z : DataTypeId) :
    Cascade.ofDataType (s.respell x name) z = Cascade.ofDataType s z := by
  rw [Cascade.ofDataType, Cascade.ofDataType, dataType?_respell]
  split
  · cases s.dataType? z <;> rfl
  · rfl

/-! ## Answers -/

theorem elementaryTarget_respell_of_ne (hz : x ≠ z) (e : Elementary) :
    (s.respell x name).elementaryTarget z e = s.elementaryTarget z e := by
  simp only [elementaryTarget, Attributes.ofDataType, cascade_respell, dataType?_respell,
    if_neg hz]
  rfl

/-- The target of a scalar with a kind, a representation and attributes. -/
def targetOf (e : Elementary) (kind : Kind) (representation : Representation)
    (attributes : Attributes) : ElementaryTarget :=
  let spelling := Spelling.canonical e.name
  { kind
    name := spelling.name
    representation
    primitiveCapable :=
      attributes.primitiveUse == .primitives && Spelling.isPrimitive spelling.name
    validated := spelling.name == "uppercase" || spelling.name == "lowercase"
    capitalized := spelling.capitalized
    length := e.length
    decimals := e.decimals
    enumeration := e.enumeration
    attributes }

/-- What a scalar in a package comes to. -/
theorem elementaryTarget_eq {d : DataType} {e : Elementary} (hd : s.dataType? x = some d)
    {cascade : Cascade} (hcascade : Cascade.ofDataType s x = some (some cascade)) :
    s.elementaryTarget x e = match e.kind? with
      | none => some (.error ⟨.unmappedType, e.name, d.span⟩)
      | some kind => (s.representation kind e).map fun
        | none => .error ⟨.missingEnum, e.name, d.span⟩
        | some representation =>
          .ok (targetOf e kind representation (.ofCascade cascade e)) := by
  have hattributes : Attributes.ofDataType s x e = some (.ok (.ofCascade cascade e)) := by
    simp [Attributes.ofDataType, hcascade]
  simp only [elementaryTarget, hattributes, hd, Option.bind_eq_bind, Option.bind_some,
    Spelling.ofName?_canonical]
  rw [Elementary.kind?]
  cases Kind.ofName? e.name with
  | none => rfl
  | some kind =>
    dsimp only
    cases s.representation kind e with
    | none => rfl
    | some representation => cases representation <;> rfl

section Exchange

variable {d : DataType} {e : Elementary} (hd : s.dataType? x = some d)
  (hkind : Kind.ofName? name = e.kind?) (hupper : Text.startsUppercase name)
include hd hkind hupper

/-- The exchanged scalar comes to its boxed form. -/
theorem elementaryTarget_respell {outcome : Except Failure ElementaryTarget}
    (h : s.elementaryTarget x e = some outcome) : ∃ outcome',
      (s.respell x name).elementaryTarget x (e.respell name) = some outcome' ∧
      Boxed e.name name d.span outcome outcome' := by
  have hd' := dataType?_respell_self hd name
  cases hcascade : Cascade.ofDataType s x with
  | none => simp [elementaryTarget, Attributes.ofDataType, hcascade] at h
  | some cascade =>
    have hcascade' : Cascade.ofDataType (s.respell x name) x = some cascade := by
      rw [cascade_respell, hcascade]
    cases cascade with
    | none =>
      obtain rfl : .error ⟨.missingPackage, e.name, d.span⟩ = outcome := by
        simpa [elementaryTarget, Attributes.ofDataType, hcascade, hd] using h
      refine ⟨_, ?_, .error .missingPackage⟩
      simp [elementaryTarget, Attributes.ofDataType, hcascade', hd', DataType.respell,
        Elementary.respell]
    | some cascade =>
      have hkind' : (e.respell name).kind? = e.kind? := hkind
      have hrepresentation (k : Kind) :
          (s.respell x name).representation k (e.respell name) = s.representation k e := rfl
      rw [elementaryTarget_eq hd hcascade] at h
      rw [elementaryTarget_eq hd' hcascade', hkind']
      cases hk : e.kind? with
      | none =>
        rw [hk] at h
        obtain rfl := Option.some.inj h
        exact ⟨_, rfl, .error .unmappedType⟩
      | some k =>
        rw [hk] at h
        obtain ⟨representation, hr, rfl⟩ := Option.map_eq_some_iff.1 h
        simp only [hrepresentation, hr, Option.map_some]
        cases representation with
        | none => exact ⟨_, rfl, .error .missingEnum⟩
        | some r =>
          refine ⟨_, rfl, .ok ⟨rfl, rfl, rfl, rfl, rfl, rfl, hupper, ?_⟩⟩
          simp [targetOf, Elementary.respell, Spelling.isPrimitive_of_startsUppercase hupper]

variable (he : d.form = .elementary e)
include he

/-- At the exchanged scalar the typedefs end as before, with its boxed form. -/
theorem Terminal.exists_boxed {outcome : Except Failure Target} (h : s.Terminal x outcome) :
    ∃ old new, Boxed e.name name d.span old new ∧ outcome = old.map .elementary ∧
      (s.respell x name).Terminal x (new.map .elementary) := by
  have hd' := dataType?_respell_self hd name
  have hform' := DataType.form_respell he name
  cases h with
  | object hd₁ hform =>
    obtain rfl := Option.some.inj (hd.symm.trans hd₁)
    cases he.symm.trans hform
  | @elementary _ _ old hd₁ hform htarget =>
    obtain rfl := Option.some.inj (hd.symm.trans hd₁)
    obtain rfl := TypeForm.elementary.inj (he.symm.trans hform)
    obtain ⟨_, htarget', hboxed⟩ := elementaryTarget_respell hd hkind hupper htarget
    refine ⟨_, _, hboxed, rfl, ?_⟩
    cases hboxed with
    | ok => exact .elementary hd' hform' htarget'
  | failing hd₁ hform hfails =>
    obtain rfl := Option.some.inj (hd.symm.trans hd₁)
    obtain rfl := TypeForm.elementary.inj (he.symm.trans hform)
    obtain ⟨_, hfails', hboxed⟩ := elementaryTarget_respell hd hkind hupper hfails
    refine ⟨_, _, hboxed, rfl, ?_⟩
    cases hboxed with
    | error => exact .failing hd' hform' hfails'

theorem Terminal.respell {outcome : Except Failure Target} (h : s.Terminal z outcome) :
    ∃ outcome', (s.respell x name).Terminal z outcome' ∧
      failureSite? outcome' = failureSite? outcome := by
  by_cases hz : x = z
  · subst hz
    obtain ⟨old, new, hboxed, rfl, hnew⟩ := h.exists_boxed hd hkind hupper he
    exact ⟨_, hnew, by cases hboxed <;> rfl⟩
  · have hsame : (s.respell x name).dataType? z = s.dataType? z := by
      rw [dataType?_respell, if_neg hz]
    refine ⟨outcome, ?_, rfl⟩
    cases h with
    | object hd₁ hform => exact .object (hsame.trans hd₁) hform
    | elementary hd₁ hform htarget =>
      exact .elementary (hsame.trans hd₁) hform
        ((elementaryTarget_respell_of_ne hz _).trans htarget)
    | failing hd₁ hform hfails =>
      exact .failing (hsame.trans hd₁) hform ((elementaryTarget_respell_of_ne hz _).trans hfails)

theorem Answers.respell {answer : Except Failure Descriptor} (h : s.Answers y answer) :
    ∃ answer', (s.respell x name).Answers y answer' ∧
      failureSite? answer' = failureSite? answer := by
  cases h with
  | resolved way ending =>
    obtain ⟨outcome, ending', hsite⟩ := ending.respell hd hkind hupper he
    cases outcome with
    | ok target => exact ⟨_, .resolved (by rwa [aliased?_respell]) ending', rfl⟩
    | error failure => cases hsite
  | failed way ending =>
    obtain ⟨outcome, ending', hsite⟩ := ending.respell hd hkind hupper he
    cases outcome with
    | ok target => cases hsite
    | error failure => exact ⟨_, .failed (by rwa [aliased?_respell]) ending', hsite⟩
  | circular way fresh again ht hd hname =>
    exact ⟨_, .circular (by rwa [aliased?_respell]) fresh again (by rwa [alias?_respell]) hd hname,
      rfl⟩

theorem answer?_respell (hs : s.Closed) (hs' : (s.respell x name).Closed)
    {answer : Except Failure Descriptor} (h : s.answer? y = some answer) :
    ∃ answer', (s.respell x name).answer? y = some answer' ∧
      failureSite? answer' = failureSite? answer := by
  obtain ⟨answer', hanswer', hsite⟩ :=
    (hs.answer?_eq_some.1 h).respell hd hkind hupper he
  exact ⟨answer', hs'.answer?_eq_some.2 hanswer', hsite⟩

end Exchange

end Schema

end SchemaTypes
