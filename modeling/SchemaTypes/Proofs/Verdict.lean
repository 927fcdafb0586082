/-
When a check finds nothing wrong: exactly when the schema is valid.

`Valid` lists what a schema is to satisfy, told by its declarations alone: no
walk with a bound, no search that stops at the first hit, no memo. The rules
tell of each declaration whether it satisfies its part (`RuleFindings`), a
report is good if nothing was found (`ReportFacts`), and a check reports the
same wherever in a run it is made (`RunHistory`).
-/
import SchemaTypes.Proofs.ReportFacts
import SchemaTypes.Proofs.RuleFindings
import SchemaTypes.Proofs.RunHistory

namespace SchemaTypes

open Validation

namespace Schema

def fieldName? (s : Schema) (f : FieldId) : Option String :=
  (s.field? f).map (·.name)

/-- What makes a schema valid, with or without the bounds on lengths. -/
structure Valid (s : Schema) (checkLengths : Bool) : Prop where
  /-- Class names start with an upper case letter. -/
  className : ∀ c d, s.class? c = some d → Text.startsUppercase d.name
  /-- No class names a final class as its parent. -/
  finalParent : ∀ c d p pd, s.class? c = some d → d.parent = some p → s.class? p = some pd →
    pd.isFinal = false
  /-- Field names start with a lower case letter. -/
  fieldName : ∀ f d, s.field? f = some d → Text.startsLowercase d.name
  /-- The fields of a class have different names. -/
  distinct : ∀ c d, s.class? c = some d → (d.fields.toList.map s.fieldName?).Nodup
  /-- No field has the name of another one in a class that its class extends. -/
  unshadowed : ∀ f d g gd, s.field? f = some d → s.field? g = some gd → f ≠ g →
    s.Extends d.owner gd.owner → d.name ≠ gd.name
  /-- Fields of a typedef carry no marker. -/
  typedefMarker : ∀ f d n t, s.field? f = some d → s.dataType? d.dataType = some n →
    n.form = .alias t → d.required = none
  /-- Fields marked `optional` have no elementary type in its lower case spelling. -/
  optionalSpelling : ∀ f d n e, s.field? f = some d → s.dataType? d.dataType = some n →
    n.form = .elementary e → d.required = some .optional → ¬Text.startsLowercase e.name
  /-- The typedefs behind every field and every typedef end well. -/
  fieldType : ∀ f d, s.field? f = some d → EndsWell s d.dataType
  typedefType : ∀ t d, s.typedef? t = some d → EndsWell s d.dataType
  /-- Elementary types, used or not, keep to the bounds for the lengths of their kind. -/
  lengths : checkLengths → ∀ x d e k, s.dataType? x = some d → d.form = .elementary e →
    e.HasKind k → k.AllowsLength e

variable {s : Schema} {checkLengths : Bool}

/-! ## The rules together -/

/-- What the rules for classes demand of one. -/
def ClassGood (s : Schema) (d : ClassDecl) : Prop :=
  Text.startsUppercase d.name ∧
    ∀ p pd, d.parent = some p → s.class? p = some pd → pd.isFinal = false

/-- What the rules for lengths demand of a data type. -/
def LengthGood (d : DataType) : Prop :=
  ∀ e k, d.form = .elementary e → e.HasKind k → k.AllowsLength e

/-- The findings tell whether all classes, fields and lengths are good. -/
theorem WellFormed.freshFindings_tells (h : s.WellFormed) (checkLengths : Bool) :
    ∃ ds, s.freshFindings checkLengths = some ds ∧
      Tells (((∀ c d, s.class? c = some d → ClassGood s d) ∧
        ∀ f d, s.field? f = some d → FieldGood s f d) ∧
        (checkLengths → ∀ x d, s.dataType? x = some d → LengthGood d)) ds := by
  have hclass : ∀ c ∈ s.classIds, ∃ ds, classFindings s c = some ds ∧
      Tells (∀ d, s.class? c = some d → ClassGood s d) ds := by
    intro c hc
    obtain ⟨d, hd⟩ := mem_classIds.1 hc
    obtain ⟨ds, hds, htells⟩ := classFindings_tells h.closed hd
    exact ⟨ds, hds, htells.congr (by simp only [hd, Option.some.injEq, forall_eq', ClassGood])⟩
  have hfield : ∀ f ∈ s.fieldIds, ∃ ds, s.fieldReport f = some ds ∧
      Tells (∀ d, s.field? f = some d → FieldGood s f d) ds := by
    intro f hf
    obtain ⟨d, hd⟩ := mem_fieldIds.1 hf
    obtain ⟨ds, hds, htells⟩ := fieldReport_tells h hd
    exact ⟨ds, hds, htells.congr (by simp only [hd, Option.some.injEq, forall_eq'])⟩
  have hlength : Tells (checkLengths → ∀ x d, s.dataType? x = some d → LengthGood d)
      (if checkLengths then Validation.lengths s else []) := by
    cases checkLengths with
    | false => exact .nil (by simp)
    | true =>
      refine (Tells.flatMap dataTypeLength_tells).congr ?_
      constructor
      · exact fun hall _ x d hd => hall d (Array.mem_toList_iff.2 (Array.mem_of_getElem? hd))
      · intro hall d hd
        obtain ⟨i, hi⟩ := Array.mem_iff_getElem?.1 (Array.mem_toList_iff.1 hd)
        exact hall rfl ⟨i⟩ d hi
  obtain ⟨classes, hclasses, hclass⟩ := Tells.mapM hclass
  obtain ⟨fields, hfields, hfield⟩ := Tells.mapM hfield
  refine ⟨_, by simp [freshFindings, hclasses, hfields],
    ((hclass.congr ?_).append (hfield.congr ?_)).append hlength⟩
  · exact ⟨fun hall c d hd => hall c (mem_classIds.2 ⟨d, hd⟩) d hd, fun hall c _ => hall c⟩
  · exact ⟨fun hall f d hd => hall f (mem_fieldIds.2 ⟨d, hd⟩) d hd, fun hall f _ => hall f⟩

/-- The failures tell whether all typedefs end well. -/
theorem Closed.typedefFailures_tells (h : s.Closed) :
    ∃ ds, s.typedefFailures = some ds ∧
      Tells (∀ t d, s.typedef? t = some d → EndsWell s d.dataType) ds := by
  have htypedef : ∀ t ∈ s.typedefIds, ∃ ds, s.typedefFailure t = some ds ∧
      Tells (∀ d, s.typedef? t = some d → EndsWell s d.dataType) ds := by
    intro t ht
    obtain ⟨d, hd⟩ := mem_typedefIds.1 ht
    obtain ⟨ds, hds, htells⟩ := typedefFailure_tells h hd
    exact ⟨ds, hds, htells.congr (by simp only [hd, Option.some.injEq, forall_eq'])⟩
  obtain ⟨failures, hfailures, htells⟩ := Tells.mapM htypedef
  refine ⟨_, by simp [typedefFailures, hfailures], htells.congr ?_⟩
  exact ⟨fun hall t d hd => hall t (mem_typedefIds.2 ⟨d, hd⟩) d hd, fun hall t _ => hall t⟩

theorem WellFormed.distinct_iff (h : s.WellFormed) :
    (∀ c d, s.class? c = some d → (d.fields.toList.map s.fieldName?).Nodup) ↔
      ∀ f d, s.field? f = some d → s.FreeIn (some f) d.name d.owner := by
  constructor
  · intro hall f d hd g gd hgd howner hname
    obtain ⟨cd, hcd⟩ := h.closed.field_owner hd
    have hf := Array.mem_toList_iff.2 ((h.mem_fields_iff hcd).2 ⟨d, hd, rfl⟩)
    have hg := Array.mem_toList_iff.2 ((h.mem_fields_iff hcd).2 ⟨gd, hgd, howner⟩)
    rw [List.inj_on_of_nodup_map (hall _ cd hcd) hg hf (by simp [fieldName?, hd, hgd, hname])]
  · intro hall c d hd
    refine (h.fields_nodup hd).map_on fun f hf g hg hname => ?_
    obtain ⟨fd, hfd, howner⟩ := (h.mem_fields_iff hd).1 (Array.mem_toList_iff.1 hf)
    obtain ⟨gd, hgd, howner'⟩ := (h.mem_fields_iff hd).1 (Array.mem_toList_iff.1 hg)
    have hname : fd.name = gd.name := by simpa [fieldName?, hfd, hgd] using hname
    exact Option.some.inj (hall g gd hgd f fd hfd (howner.trans howner'.symm) hname)

/-- No field is shadowed if each field's name is free in the classes further up. -/
theorem unshadowed_iff : (∀ f d g gd, s.field? f = some d → s.field? g = some gd → f ≠ g →
      s.Extends d.owner gd.owner → d.name ≠ gd.name) ↔
    ∀ f d, s.field? f = some d → ∀ a, s.Extends d.owner a → s.FreeIn (some f) d.name a := by
  constructor
  · rintro hall f d hd a hextends g gd hgd rfl hname
    by_contra hne
    exact hall f d g gd hd hgd (fun heq => hne (by rw [heq])) hextends hname.symm
  · intro hall f d g gd hd hgd hne hextends hname
    exact hne (Option.some.inj (hall f d hd gd.owner hextends g gd hgd rfl hname.symm)).symm

/-- What the rules demand, declaration by declaration, is validity. -/
theorem WellFormed.valid_iff (h : s.WellFormed) :
    s.Valid checkLengths ↔ (((∀ c d, s.class? c = some d → ClassGood s d) ∧
        ∀ f d, s.field? f = some d → FieldGood s f d) ∧
        (checkLengths → ∀ x d, s.dataType? x = some d → LengthGood d)) ∧
      ∀ t d, s.typedef? t = some d → EndsWell s d.dataType := by
  constructor
  · intro hv
    refine ⟨⟨⟨fun c d hd => ?_, fun f d hd => ?_⟩,
      fun hcheck x d hd e k => hv.lengths hcheck x d e k hd⟩, hv.typedefType⟩
    · exact ⟨hv.className c d hd, fun p pd => hv.finalParent c d p pd hd⟩
    · exact {
        name := hv.fieldName f d hd
        distinct := h.distinct_iff.1 hv.distinct f d hd
        unshadowed := unshadowed_iff.1 hv.unshadowed f d hd
        marker :=
          ⟨fun n t => hv.typedefMarker f d n t hd, fun n e => hv.optionalSpelling f d n e hd⟩
        type := hv.fieldType f d hd }
  · rintro ⟨⟨⟨hclass, hfield⟩, hlength⟩, htypedef⟩
    exact {
      className := fun c d hd => (hclass c d hd).1
      finalParent := fun c d p pd hd => (hclass c d hd).2 p pd
      fieldName := fun f d hd => (hfield f d hd).name
      distinct := h.distinct_iff.2 fun f d hd => (hfield f d hd).distinct
      unshadowed := unshadowed_iff.2 fun f d hd => (hfield f d hd).unshadowed
      typedefMarker := fun f d n t hd => (hfield f d hd).marker.typedef n t
      optionalSpelling := fun f d n e hd => (hfield f d hd).marker.spelling n e
      fieldType := fun f d hd => (hfield f d hd).type
      typedefType := htypedef
      lengths := fun hcheck x d e k hd => hlength hcheck x d hd e k }

/-- A validation of a well-formed schema gives the report of what the rules find, whatever the
memo was used for before. -/
theorem WellFormed.exists_validate (h : s.WellFormed) {m : Memo}
    {calls : List (DataTypeId × Except Failure Descriptor)} (hm : Memo.Reached s calls m)
    (checkLengths : Bool) :
    ∃ findings m', s.freshFindings checkLengths = some findings ∧
      s.validate checkLengths m = some (.ofDiagnostics findings, m') := by
  obtain ⟨findings, hfresh, -⟩ := h.freshFindings_tells checkLengths
  obtain ⟨m', -, hfindings⟩ := h.closed.findings_eq (hm.sound h.closed) checkLengths
  exact ⟨findings, m', hfresh, by rw [validate, hfindings, hfresh]; rfl⟩

theorem WellFormed.wholeReport_isOk_iff (h : s.WellFormed) {findings failures : List Diagnostic}
    (hfindings : s.freshFindings checkLengths = some findings)
    (hfailures : s.typedefFailures = some failures) :
    (wholeReport findings failures).isOk ↔ findings = [] ∧ failures = [] := by
  obtain ⟨findings', hfindings', hrules⟩ := h.freshFindings_tells checkLengths
  obtain ⟨failures', hfailures', htypedefs⟩ := h.closed.typedefFailures_tells
  obtain rfl := Option.some.inj (hfindings.symm.trans hfindings')
  obtain rfl := Option.some.inj (hfailures.symm.trans hfailures')
  exact Schema.wholeReport_isOk_iff hrules.isError htypedefs.isError

end Schema

/-! ## The verdict -/

namespace Run

variable {s : Schema} {checkLengths : Bool} {r : Run}

theorem Reached.exists_report (h : s.WellFormed) (hr : Reached s checkLengths r) :
    ∃ findings failures r', s.freshFindings checkLengths = some findings ∧
      s.typedefFailures = some failures ∧
      r.check = some (Schema.wholeReport findings failures, r') := by
  obtain ⟨r', hcheck⟩ := hr.check_eq h.closed
  obtain ⟨findings, hfindings, -⟩ := h.freshFindings_tells checkLengths
  obtain ⟨failures, hfailures, -⟩ := h.closed.typedefFailures_tells
  exact ⟨findings, failures, r', hfindings, hfailures,
    by simp [hcheck, Schema.freshCheck, hfindings, hfailures]⟩

/-- A check is good if there is no error in its report. -/
theorem Reached.isOk_iff (h : s.WellFormed) (hr : Reached s checkLengths r) {report : Report}
    {r' : Run} (hcheck : r.check = some (report, r')) :
    report.isOk ↔ ∀ d ∈ report.diagnostics, ¬d.isError := by
  obtain ⟨findings, failures, next, -, -, hreport⟩ := hr.exists_report h
  rw [hcheck, Option.some.injEq, Prod.mk.injEq, Schema.wholeReport_eq] at hreport
  rw [hreport.1]
  exact Report.isOk_ofDiagnostics_iff _

/-- **A check finds nothing exactly in valid schemas.** Wherever in a run over a well-formed
schema a check is made, it gives a report, and that is good if and only if the schema is valid. -/
theorem check_isOk_iff_valid (h : s.WellFormed) (hr : Reached s checkLengths r) :
    ∃ report r', r.check = some (report, r') ∧ (report.isOk ↔ s.Valid checkLengths) := by
  obtain ⟨r', hcheck⟩ := hr.check_eq h.closed
  obtain ⟨findings, hfindings, hrules⟩ := h.freshFindings_tells checkLengths
  obtain ⟨failures, hfailures, htypedefs⟩ := h.closed.typedefFailures_tells
  refine ⟨Schema.wholeReport findings failures, r', ?_, ?_⟩
  · simp [hcheck, Schema.freshCheck, hfindings, hfailures]
  · rw [Schema.wholeReport_isOk_iff hrules.isError htypedefs.isError, hrules.eq_nil_iff,
      htypedefs.eq_nil_iff, h.valid_iff]

/-- The typedefs `A` and `B` run in a circle, which a check of the sample finds. -/
theorem check_isOk_iff_valid_circle : Schema.sample.WellFormed ∧
    Reached Schema.sample true (start Schema.sample true) ∧ ¬Schema.sample.Valid true ∧
    ∃ report r', (start Schema.sample true).check = some (report, r') ∧
      (report.isOk ↔ Schema.sample.Valid true) := by
  have hr : Reached Schema.sample true (start Schema.sample true) := .start .empty
  refine ⟨Schema.sample_wellFormed, hr, fun hv => ?_,
    check_isOk_iff_valid Schema.sample_wellFormed hr⟩
  have hends : EndsWell Schema.sample ⟨3⟩ := hv.fieldType ⟨0⟩ _ rfl
  rw [endsWell_iff Schema.sample_wellFormed.closed Schema.sample_circle] at hends
  simp at hends

end Run

end SchemaTypes
