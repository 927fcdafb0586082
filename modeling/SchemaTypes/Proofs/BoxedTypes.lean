/-
What becomes of a schema when an optional field gets the type that its
diagnostic offers.

The marker `optional` is refused at an elementary type in its lower case
spelling, and the capitalized one is offered. With it the schema keeps all
other diagnostics, each under its code and at its place, though a text may
name the type. The field resolves to the same type in its boxed form
(`Schema.boxed_of_optional`).

One rule after the other finds the same at the same places, as the data types
of both schemas answer alike. Only the marker is not refused any more.
-/
import SchemaTypes.Proofs.FindingsByCode
import SchemaTypes.Proofs.RespelledAnswers
import SchemaTypes.Proofs.TypeOwners
import SchemaTypes.Proofs.Verdict

namespace SchemaTypes

open Validation

/-- What a diagnostic is about, and where, without its texts. -/
def Diagnostic.site (d : Diagnostic) : Code × Option Span :=
  (d.code, d.primarySpan?)

namespace Schema

variable {s : Schema} {x : DataTypeId} {name : String}

/-! ## Findings -/

theorem sites_typeFindings {f : FieldDecl} {answer answer' : Except Failure Descriptor}
    (h : failureSite? answer' = failureSite? answer) :
    (typeFindings f answer').map (·.site) = (typeFindings f answer).map (·.site) := by
  have hsite (failure : Failure) :
      (typeFinding f failure).site = (failure.cause.code, some failure.span) := rfl
  cases answer <;> cases answer' <;> simp_all [failureSite?, typeFindings]

theorem sites_lengthFaults (e : Elementary) (span : Span) (rule : LengthRule) :
    (lengthFaults (e.respell name) span rule).map (·.site) =
      (lengthFaults e span rule).map (·.site) := by
  have hite {p : Prop} [Decidable p] {code : Code} {message declared declared' : String} :
      (if p then [lengthFault code span message declared'] else []).map (·.site) =
        (if p then [lengthFault code span message declared] else []).map (·.site) := by
    split <;> rfl
  cases rule with
  | exempt => rfl
  | fractionalSeconds | numberMantissa | size => exact hite
  | decimalMantissa =>
    simp only [lengthFaults, List.map_append]
    exact congrArg₂ _ hite hite

section Findings

variable {d : DataType} {e : Elementary} (hd : s.dataType? x = some d)
  (he : d.form = .elementary e) (hkind : Kind.ofName? name = e.kind?)
include he hkind

theorem sites_dataTypeLength :
    (dataTypeLength (d.respell name)).map (·.site) = (dataTypeLength d).map (·.site) := by
  have hkind' : Kind.ofName? (e.respell name).name = e.kind? := hkind
  simp only [dataTypeLength, DataType.respell, he, TypeForm.respell, Spelling.ofName?_canonical,
    hkind']
  rw [Elementary.kind?]
  cases Kind.ofName? e.name with
  | none => rfl
  | some k => exact sites_lengthFaults e d.span k.lengthRule

include hd

theorem sites_lengths :
    (lengths (s.respell x name)).map (·.site) = (lengths s).map (·.site) := by
  have hmap : (s.respell x name).dataTypes.toList.map (fun d => (dataTypeLength d).map (·.site)) =
      s.dataTypes.toList.map fun d => (dataTypeLength d).map (·.site) := by
    refine List.ext_getElem? fun i => ?_
    simp only [List.getElem?_map, Array.getElem?_toList]
    have hlook : (s.respell x name).dataTypes[i]? = _ := dataType?_respell s x name ⟨i⟩
    rw [hlook]
    split
    · next hi =>
      subst hi
      have hd' : s.dataTypes[i]? = some d := hd
      simp only [dataType?, hd', Option.map_some, sites_dataTypeLength he hkind]
    · rfl
  rw [lengths, lengths, List.map_flatMap, List.map_flatMap, List.flatMap_def, List.flatMap_def,
    hmap]

end Findings

/-! ## Fields -/

theorem lineage_respell (limit : Nat) : ∀ start : Option ClassId,
    (s.respell x name).lineage limit start = s.lineage limit start := by
  induction limit with
  | zero => exact fun _ => rfl
  | succ limit ih =>
    intro start
    cases start with
    | none => rfl
    | some c =>
      simp only [lineage, ih]
      rfl

theorem firstNamed_respell (n : String) (except : Option FieldId) (ids : List FieldId) :
    (s.respell x name).firstNamed n except ids = s.firstNamed n except ids := by
  induction ids with
  | nil => rfl
  | cons f rest ih =>
    simp only [firstNamed, ih]
    rfl

theorem duplicateName_respell (id : FieldId) (f : FieldDecl) :
    duplicateName (s.respell x name) id f = duplicateName s id f := by
  simp only [duplicateName, firstNamed_respell]
  rfl

theorem shadowedIn_respell (id : FieldId) (f : FieldDecl) (a : ClassId) :
    shadowedIn (s.respell x name) id f a = shadowedIn s id f a := by
  simp only [shadowedIn, firstNamed_respell]
  rfl

theorem shadowing_respell (id : FieldId) (f : FieldDecl) :
    shadowing (s.respell x name) id f = shadowing s id f := by
  have hrule : shadowedIn (s.respell x name) id f = shadowedIn s id f :=
    funext (shadowedIn_respell id f)
  have hclass : (s.respell x name).class? f.owner = s.class? f.owner := rfl
  have hsize : (s.respell x name).classes.size = s.classes.size := rfl
  simp only [shadowing, superclasses, lineage_respell, hrule, hclass, hsize]

theorem fieldMarker_respell_of_ne {f : FieldDecl} (hf : x ≠ f.dataType) :
    fieldMarker (s.respell x name) f = fieldMarker s f := by
  simp only [fieldMarker, dataType?_respell, if_neg hf]
  rfl

section Fields

variable {d : DataType} {e : Elementary} (hd : s.dataType? x = some d)
  (he : d.form = .elementary e) (hkind : Kind.ofName? name = e.kind?)
  (hupper : Text.startsUppercase name) (hs : s.Closed) (hs' : (s.respell x name).Closed)
include hd he hkind hupper hs hs'

/-- Of one field the same is found at the same places, apart from its marker. -/
theorem fieldReport_respell {id : FieldId} {f : FieldDecl} (hf : s.field? id = some f)
    {marker marker' : List Diagnostic} (hmarker : fieldMarker s f = some marker)
    (hmarker' : fieldMarker (s.respell x name) f = some marker') {ds : List Diagnostic}
    (h : s.fieldReport id = some ds) : ∃ ds', (s.respell x name).fieldReport id = some ds' ∧
      (ds.map (·.site) ++ marker'.map (·.site)).Perm (marker.map (·.site) ++ ds'.map (·.site)) := by
  obtain ⟨f₁, twins, above, marker₁, answer, hf₁, htwins, habove, hmarker₁, hanswer, rfl⟩ :=
    fieldReport_eq_some h
  obtain rfl := Option.some.inj (hf.symm.trans hf₁)
  obtain rfl := Option.some.inj (hmarker.symm.trans hmarker₁)
  obtain ⟨answer', hanswer', hsite⟩ := answer?_respell hd hkind hupper he hs hs' hanswer
  have hf' : (s.respell x name).field? id = some f := hf
  refine ⟨fieldNaming f ++ twins ++ above ++ marker' ++ typeFindings f answer', ?_, ?_⟩
  · simp [fieldReport, fieldShape, hf', duplicateName_respell, shadowing_respell, htwins, habove,
      hmarker', hanswer']
  · simp only [List.map_append, sites_typeFindings hsite, List.perm_iff_count, List.count_append]
    omega

/-- Of fields that do not have the type the same is found at the same places. -/
theorem fieldReports_respell : ∀ {ids : List FieldId} {fields : List (List Diagnostic)},
    (∀ id ∈ ids, ∀ f, s.field? id = some f → x ≠ f.dataType) →
      ids.mapM s.fieldReport = some fields → ∃ fields',
        ids.mapM (s.respell x name).fieldReport = some fields' ∧
        (fields.flatten.map (·.site)).Perm (fields'.flatten.map (·.site))
  | [], fields, _, hfields => by
    obtain rfl : [] = fields := by simpa using hfields
    exact ⟨[], rfl, .refl _⟩
  | id :: ids, fields, hne, hfields => by
    simp only [List.mapM_cons, Option.bind_eq_bind, Option.bind_eq_some_iff] at hfields
    obtain ⟨ds, hds, rest, hrest, hfields⟩ := hfields
    obtain rfl := Option.some.inj hfields
    obtain ⟨f, twins, above, marker, answer, hf, -, -, hmarker, -, -⟩ := fieldReport_eq_some hds
    have hmarker' : fieldMarker (s.respell x name) f = some marker :=
      (fieldMarker_respell_of_ne (hne id List.mem_cons_self f hf)).trans hmarker
    obtain ⟨ds', hds', hperm⟩ :=
      fieldReport_respell hd he hkind hupper hs hs' hf hmarker hmarker' hds
    obtain ⟨rest', hrest', hperms⟩ :=
      fieldReports_respell (fun i hi => hne i (List.mem_cons_of_mem id hi)) hrest
    refine ⟨ds' :: rest', by simp [hds', hrest'], ?_⟩
    rw [List.flatten_cons, List.flatten_cons, List.map_append, List.map_append]
    exact ((List.perm_append_right_iff _).1 (hperm.trans List.perm_append_comm)).append hperms

/-- What is found in a schema is found in the respelled one at the same places, apart from the
marker of the field that has the type. -/
theorem freshFindings_respell {id : FieldId} {f : FieldDecl} (hf : s.field? id = some f)
    (honly : ∀ i g, s.field? i = some g → i ≠ id → x ≠ g.dataType) {marker : List Diagnostic}
    (hmarker : fieldMarker s f = some marker)
    (hmarker' : fieldMarker (s.respell x name) f = some []) {checkLengths : Bool}
    {findings : List Diagnostic} (h : s.freshFindings checkLengths = some findings) :
    ∃ findings', (s.respell x name).freshFindings checkLengths = some findings' ∧
      (findings.map (·.site)).Perm (marker.map (·.site) ++ findings'.map (·.site)) := by
  simp only [freshFindings, Option.bind_eq_bind, Option.bind_eq_some_iff] at h
  obtain ⟨classes, hclasses, fields, hfields, hfindings⟩ := h
  obtain rfl := Option.some.inj hfindings
  have hclasses' : (s.respell x name).classIds.mapM (classFindings (s.respell x name)) =
      some classes := hclasses
  -- The field stands among the others, which do not have the type.
  have hids := s.fieldIds_nodup
  obtain ⟨before, after, hsplit⟩ := List.append_of_mem (mem_fieldIds.2 ⟨f, hf⟩)
  have hsplit' : (s.respell x name).fieldIds = before ++ id :: after := hsplit
  rw [hsplit] at hfields hids
  have hbefore : ∀ i ∈ before, i ≠ id := by
    rintro i hi rfl
    exact (List.nodup_append.1 hids).2.2 i hi i List.mem_cons_self rfl
  have hafter : ∀ i ∈ after, i ≠ id := by
    rintro i hi rfl
    exact (List.nodup_cons.1 (List.nodup_append.1 hids).2.1).1 hi
  simp only [List.mapM_append, List.mapM_cons, Option.bind_eq_bind, Option.bind_eq_some_iff]
    at hfields
  obtain ⟨first, hfirst, last, ⟨ds, hds, rest, hrest, hlast⟩, hfields⟩ := hfields
  obtain rfl := Option.some.inj hlast
  obtain rfl := Option.some.inj hfields
  obtain ⟨first', hfirst', hperm⟩ := fieldReports_respell hd he hkind hupper hs hs'
    (fun i hi g hg => honly i g hg (hbefore i hi)) hfirst
  obtain ⟨rest', hrest', hperm'⟩ := fieldReports_respell hd he hkind hupper hs hs'
    (fun i hi g hg => honly i g hg (hafter i hi)) hrest
  obtain ⟨ds', hds', hperm''⟩ :=
    fieldReport_respell hd he hkind hupper hs hs' hf hmarker hmarker' hds
  refine ⟨_, by simp only [freshFindings, hclasses', hsplit', List.mapM_append, List.mapM_cons,
    hfirst', hds', hrest', Option.bind_eq_bind, Option.bind_some]; rfl, ?_⟩
  have hlengths : (if checkLengths then lengths s else []).map (·.site) =
      (if checkLengths then lengths (s.respell x name) else []).map (·.site) := by
    cases checkLengths
    · rfl
    · exact (sites_lengths hd he hkind).symm
  simp only [List.flatten_append, List.flatten_cons, List.map_append, List.append_nil,
    List.map_nil, hlengths, List.perm_iff_count, List.count_append] at *
  intro site
  specialize hperm site
  specialize hperm' site
  specialize hperm'' site
  omega

end Fields

/-! ## Optional fields -/

/-- A field of an elementary type is reported for its marker `optional`. -/
structure MarkedOptional (s : Schema) (id : FieldId) (f : FieldDecl) (e : Elementary)
    (d : Diagnostic) : Prop where
  field : s.field? id = some f
  scalar : ∃ t, s.dataType? f.dataType = some t ∧ t.form = .elementary e
  reported : ∃ marker, fieldMarker s f = some marker ∧ d ∈ marker
  code : d.code = .optionalPrimitive

/-- Another schema takes the place of one with a report. It is reported without `d` and otherwise
the same, and its data type `x` resolves to the boxed form. -/
structure Mended (s s' : Schema) (m : Memo) (report : Report) (d : Diagnostic) (x : DataTypeId)
    (checkLengths : Bool) : Prop where
  wellFormed : s'.WellFormed
  report : ∀ m' calls', Memo.Reached s' calls' m' → ∃ report' n',
    s'.validate checkLengths m' = some (report', n') ∧
    (report.diagnostics.map (·.site)).Perm (d.site :: report'.diagnostics.map (·.site))
  target : ∀ m' calls', Memo.Reached s' calls' m' → ∀ target, s.ResolvesTo m x target →
    ∃ old new, target = .elementary old ∧ s'.ResolvesTo m' x (.elementary new) ∧ old.Boxes new

theorem fieldMarker_eq_optional {f : FieldDecl} {marker : List Diagnostic} {d : Diagnostic}
    (h : fieldMarker s f = some marker) (hd : d ∈ marker) (hcode : d.code = .optionalPrimitive) :
    ∃ t e, s.dataType? f.dataType = some t ∧ t.form = .elementary e ∧
      Text.startsLowercase e.name ∧ d = optionalPrimitive f e.name ∧ marker = [d] := by
  unfold fieldMarker at h
  split at h
  · obtain rfl := Option.some.inj h
    cases hd
  · obtain ⟨t, ht, h⟩ := Option.bind_eq_some_iff.1 h
    split at h
    · obtain ⟨typedefName, -, rfl⟩ := Option.map_eq_some_iff.1 h
      obtain rfl := List.mem_singleton.1 hd
      cases hcode
    · next e hform =>
      split at h
      · next hlower =>
        obtain rfl := Option.some.inj h
        obtain rfl := List.mem_singleton.1 hd
        exact ⟨t, e, ht, hform, hlower.2, rfl, rfl⟩
      · obtain rfl := Option.some.inj h
        cases hd
    · obtain rfl := Option.some.inj h
      cases hd

theorem MarkedOptional.inv {id : FieldId} {f : FieldDecl} {e : Elementary} {d : Diagnostic}
    (h : s.MarkedOptional id f e d) : Text.startsLowercase e.name ∧
      d = optionalPrimitive f e.name ∧ fieldMarker s f = some [d] := by
  obtain ⟨t, ht, hform⟩ := h.scalar
  obtain ⟨marker, hmarker, hd⟩ := h.reported
  obtain ⟨t', e', ht', hform', hlower, rfl, rfl⟩ := fieldMarker_eq_optional hmarker hd h.code
  obtain rfl := Option.some.inj (ht.symm.trans ht')
  obtain rfl := TypeForm.elementary.inj (hform.symm.trans hform')
  exact ⟨hlower, rfl, hmarker⟩

theorem mem_markedOptionals {checkLengths : Bool} {findings : List Diagnostic} {d : Diagnostic}
    (h : s.freshFindings checkLengths = some findings) :
    d ∈ findings ∧ d.code = .optionalPrimitive ↔ ∃ id f e, s.MarkedOptional id f e d := by
  obtain ⟨found, hfound, hfilter⟩ :=
    filter_freshFindings_fields .optionalPrimitive (fun id => (s.field? id).bind fun f =>
        (fieldMarker s f).map (·.filter (·.code == .optionalPrimitive))) id (by decide)
      (fun id ds hreport => by
        obtain ⟨f, marker, hf, hmarker, -, -, -, hoptional⟩ := filter_fieldReport hreport
        exact ⟨_, by rw [hf, Option.bind_some, hmarker]; rfl, by simp [hoptional]⟩) h
  simp only [mem_of_filter_code hfilter, List.mem_flatten, mem_of_mapM hfound,
    Option.bind_eq_some_iff, Option.map_eq_some_iff]
  constructor
  · rintro ⟨_, ⟨id, -, f, hf, marker, hmarker, rfl⟩, hd⟩
    obtain ⟨hd, hcode⟩ := List.mem_filter.1 hd
    have hcode : d.code = .optionalPrimitive := by simpa using hcode
    obtain ⟨t, e, ht, hform, -⟩ := fieldMarker_eq_optional hmarker hd hcode
    exact ⟨id, f, e, hf, ⟨t, ht, hform⟩, ⟨marker, hmarker, hd⟩, hcode⟩
  · rintro ⟨id, f, e, hf, -, ⟨marker, hmarker, hd⟩, hcode⟩
    exact ⟨_, ⟨id, mem_fieldIds.2 ⟨f, hf⟩, f, hf, marker, hmarker, rfl⟩,
      List.mem_filter.2 ⟨hd, by simp [hcode]⟩⟩

theorem WellFormed.field_of_dataType (h : s.WellFormed) {id id' : FieldId} {f f' : FieldDecl}
    (hf : s.field? id = some f) (hf' : s.field? id' = some f') (hx : f'.dataType = f.dataType) :
    id' = id := by
  obtain ⟨calls, d, hcalls, hfinish⟩ := h.drafted
  have hback := Draft.backReferenced_of_finish hcalls hfinish
  obtain ⟨n, hn, howner⟩ := (hback.field_iff id _).1 ⟨f, hf, rfl⟩
  obtain ⟨n', hn', howner'⟩ := (hback.field_iff id' _).1 ⟨f', hf', rfl⟩
  rw [hx] at hn'
  obtain rfl := Option.some.inj (hn.symm.trans hn')
  exact TypeOwner.field.inj (howner'.symm.trans howner)

/-- The offered name starts in upper case, so there is no fault in the marker any more. -/
theorem fieldMarker_respell_self {f : FieldDecl} {t : DataType} {e : Elementary}
    (ht : s.dataType? f.dataType = some t) (hform : t.form = .elementary e)
    (hname : Text.startsLowercase name = false) :
    fieldMarker (s.respell f.dataType name) f = some [] := by
  unfold fieldMarker
  split
  · rfl
  · simp [dataType?_respell_self ht name, DataType.form_respell hform name, Elementary.respell,
      hname]

/-- A data type that is a scalar resolves to its boxed form under the other name. -/
theorem resolvesTo_boxed (h : s.WellFormed) (h' : (s.respell x name).WellFormed) {d : DataType}
    {e : Elementary} (hd : s.dataType? x = some d) (he : d.form = .elementary e)
    (hkind : Kind.ofName? name = e.kind?) (hupper : Text.startsUppercase name) {m m' : Memo}
    {calls calls' : List (DataTypeId × Except Failure Descriptor)} (hm : Memo.Reached s calls m)
    (hm' : Memo.Reached (s.respell x name) calls' m') {target : Target}
    (htarget : s.ResolvesTo m x target) : ∃ old new, target = .elementary old ∧
      (s.respell x name).ResolvesTo m' x (.elementary new) ∧ old.Boxes new := by
  have hend : s.aliased? x = none := by simp [aliased?, alias?, hd, he]
  have hend' : (s.respell x name).aliased? x = none := by rwa [aliased?_respell]
  have hterminal := (h.resolvesTo_iff hm (.here x) hend).1 htarget
  obtain ⟨_, _, hboxed, heq, hnew⟩ := hterminal.exists_boxed hd hkind hupper he
  cases hboxed with
  | @ok old new hboxes =>
    exact ⟨old, new, Except.ok.inj heq, (h'.resolvesTo_iff hm' (.here x) hend').2 hnew, hboxes⟩
  | error => cases heq

/-- With the capitalized name of a type in the table nothing else than the diagnostic changes. -/
theorem MarkedOptional.mended {id : FieldId} {f : FieldDecl} {e : Elementary} {d : Diagnostic}
    (hmarked : s.MarkedOptional id f e d) {k : Kind} (hk : e.kind? = some k) (h : s.WellFormed)
    {m : Memo} {calls : List (DataTypeId × Except Failure Descriptor)}
    (hm : Memo.Reached s calls m) {checkLengths : Bool} {findings : List Diagnostic}
    (hfindings : s.freshFindings checkLengths = some findings) :
    s.Mended (s.respell f.dataType (Text.capitalize e.name)) m (.ofDiagnostics findings) d
      f.dataType checkLengths := by
  obtain ⟨t, ht, hform⟩ := hmarked.scalar
  obtain ⟨hlower, -, hmarker⟩ := hmarked.inv
  have hletter := Kind.startsLower_of_ofName? hk hlower
  have hkind : Kind.ofName? (Text.capitalize e.name) = e.kind? :=
    Kind.ofName?_congr hletter.fold_capitalize
  have hupper := hletter.startsUppercase_capitalize
  have h' := h.respell f.dataType (Text.capitalize e.name)
  have hmarker' := fieldMarker_respell_self ht hform hletter.startsLowercase_capitalize
  have honly (i : FieldId) (g : FieldDecl) (hg : s.field? i = some g) (hi : i ≠ id) :
      f.dataType ≠ g.dataType :=
    fun hx => hi (h.field_of_dataType hmarked.field hg hx.symm)
  refine ⟨h', fun m' calls' hm' => ?report, fun m' calls' hm' target => ?target⟩
  case report =>
    obtain ⟨findings', hfindings', hperm⟩ := freshFindings_respell ht hform hkind hupper h.closed
      h'.closed hmarked.field honly hmarker hmarker' hfindings
    obtain ⟨findings'', n', hfindings'', hvalidate'⟩ := h'.exists_validate hm' checkLengths
    obtain rfl := Option.some.inj (hfindings'.symm.trans hfindings'')
    refine ⟨_, n', hvalidate', ?_⟩
    calc (Report.ofDiagnostics findings).diagnostics.map (·.site)
      _ |>.Perm (findings.map (·.site)) := (Report.perm_ofDiagnostics findings).map _
      _ |>.Perm (d.site :: findings'.map Diagnostic.site) := hperm
      _ |>.Perm (d.site :: (Report.ofDiagnostics findings').diagnostics.map (·.site)) :=
        ((Report.perm_ofDiagnostics findings').symm.map _).cons _
  case target => exact resolvesTo_boxed h h' ht hform hkind hupper hm hm'

/-- **The boxed type is the right fix.** A validation reports the fields whose marker `optional` is
at the lower case spelling of their type, and offers one name to each. If the type has a kind, the
schema with that name is well-formed, is reported without this one diagnostic, and the field
resolves to the same scalar in its boxed form. -/
theorem boxed_of_optional (h : s.WellFormed) {m : Memo}
    {calls : List (DataTypeId × Except Failure Descriptor)} (hm : Memo.Reached s calls m)
    (checkLengths : Bool) : ∃ report n, s.validate checkLengths m = some (report, n) ∧
      (∀ d, d ∈ report.diagnostics ∧ d.code = .optionalPrimitive ↔
        ∃ id f e, s.MarkedOptional id f e d) ∧
      ∀ id f e d, s.MarkedOptional id f e d → ∃ name,
        d.suggestions.map (·.replacement) = [some name] ∧
        (e.kind?.isSome →
          s.Mended (s.respell f.dataType name) m report d f.dataType checkLengths) := by
  obtain ⟨findings, n, hfindings, hvalidate⟩ := h.exists_validate hm checkLengths
  refine ⟨_, n, hvalidate, fun d => ?_, fun id f e d hmarked => ?_⟩
  · rw [(Report.perm_ofDiagnostics findings).mem_iff, mem_markedOptionals hfindings]
  · obtain ⟨-, rfl, -⟩ := hmarked.inv
    refine ⟨Text.capitalize e.name, rfl, fun hsome => ?_⟩
    obtain ⟨k, hk⟩ := Option.isSome_iff_exists.1 hsome
    exact hmarked.mended hk h hm hfindings

/-! ## An optional `int` -/

/-- In package `p` the class `C` has an optional field `x` of type `int`. -/
def optionalIntCalls : List Draft.Call :=
  [.addPackage "p", .addClass (some ⟨0⟩) "C", .addField ⟨0⟩ "x" (.elementary { name := "int" }),
   .setRequired ⟨0⟩ .optional]

def optionalX : FieldDecl where
  name := "x"
  owner := ⟨0⟩
  dataType := ⟨0⟩
  required := some .optional

def optionalInt : Schema where
  names := ["p", "C", "x"].foldl NameTable.insert .empty
  packages := #[{ name := "p" }]
  classes := #[{ name := "C", package := some ⟨0⟩, fields := #[⟨0⟩] }]
  fields := #[optionalX]
  typedefs := #[]
  enums := #[]
  dataTypes := #[{ form := .elementary { name := "int" }, owner := .field ⟨0⟩ }]

theorem optionalInt_wellFormed : optionalInt.WellFormed where
  drafted := ⟨optionalIntCalls, _, rfl, rfl⟩
  closed := by decide

theorem optionalInt_marked : optionalInt.MarkedOptional ⟨0⟩ optionalX { name := "int" }
    (optionalPrimitive optionalX "int") where
  field := rfl
  scalar := ⟨_, rfl, rfl⟩
  reported := by
    have hlower : Text.startsLowercase "int" := by decide +kernel
    refine ⟨[optionalPrimitive optionalX "int"], ?_, List.mem_singleton_self _⟩
    simp [fieldMarker, dataType?, optionalInt, optionalX, hlower]
  code := rfl

/-- The field is reported, and it is not with the type `Int`. -/
theorem boxed_of_optional_int : optionalInt.WellFormed ∧ Memo.Reached optionalInt [] .empty ∧
    ∃ report n, optionalInt.validate true .empty = some (report, n) ∧
      optionalPrimitive optionalX "int" ∈ report.diagnostics ∧
      optionalInt.Mended (optionalInt.respell ⟨0⟩ "Int") .empty report
        (optionalPrimitive optionalX "int") ⟨0⟩ true := by
  obtain ⟨report, n, hvalidate, hmem, hmends⟩ :=
    boxed_of_optional optionalInt_wellFormed .start true
  obtain ⟨name, hname, hmended⟩ := hmends _ _ _ _ optionalInt_marked
  obtain rfl : name = "Int" := by
    have hboxed : Text.capitalize "int" = "Int" := by decide +kernel
    simpa [optionalPrimitive, hboxed] using hname.symm
  exact ⟨optionalInt_wellFormed, .start, report, n, hvalidate,
    ((hmem _).2 ⟨_, _, _, optionalInt_marked⟩).1, hmended (by decide)⟩

end Schema

end SchemaTypes
