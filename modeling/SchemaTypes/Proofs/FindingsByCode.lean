/-
What is reported under one code.

Every rule reports under codes of its own (`RuleCodes`). So whatever a
validation reports under the code of a rule for classes, it found in a class,
and whatever it reports under the code of a rule for fields, that rule found:
one field after the other, and for each field as if it were asked alone
(`filter_freshFindings`).
-/
import SchemaTypes.Proofs.RuleCodes

namespace SchemaTypes

/-! ## Diagnostics by their codes -/

theorem filter_code_eq_nil {codes : List Code} {c : Code} {ds : List Diagnostic}
    (h : ∀ d ∈ ds, d.code ∈ codes) (hcode : c ∉ codes) : ds.filter (·.code == c) = [] := by
  rw [List.filter_eq_nil_iff]
  intro d hd heq
  exact hcode (beq_iff_eq.1 heq ▸ h d hd)

namespace ReportedAt

variable {span : Span} {codes : List Code} {c : Code} {ds : List Diagnostic}

theorem filter_eq_nil (h : ReportedAt span codes ds) (hcode : c ∉ codes) :
    ds.filter (·.code == c) = [] :=
  filter_code_eq_nil (fun d hd => (h d hd).1) hcode

theorem filter_eq_self (h : ReportedAt span [c] ds) : ds.filter (·.code == c) = ds := by
  rw [List.filter_eq_self]
  intro d hd
  simpa using (h d hd).1

end ReportedAt

/-- What a rule finds in several declarations is what it finds in each, one after the other. -/
theorem filter_flatten_of_mapM {ι α : Type} {report : ι → Option (List Diagnostic)}
    {rule : ι → Option (List α)} {diagnostic : α → Diagnostic} {code : Code}
    (hrule : ∀ i ds, report i = some ds → ∃ found, rule i = some found ∧
      ds.filter (·.code == code) = found.map diagnostic) :
    ∀ {ids : List ι} {reports : List (List Diagnostic)}, ids.mapM report = some reports →
      ∃ found, ids.mapM rule = some found ∧
        reports.flatten.filter (·.code == code) = found.flatten.map diagnostic
  | [], reports, hreports => by
    obtain rfl : [] = reports := by simpa using hreports
    exact ⟨[], rfl, rfl⟩
  | i :: ids, reports, hreports => by
    simp only [List.mapM_cons, Option.bind_eq_bind, Option.bind_eq_some_iff] at hreports
    obtain ⟨ds, hds, rest, hrest, hreports⟩ := hreports
    obtain rfl := Option.some.inj hreports
    obtain ⟨own, hown, hfilter⟩ := hrule i ds hds
    obtain ⟨found, hfound, hfilters⟩ := filter_flatten_of_mapM hrule hrest
    exact ⟨own :: found, by simp [hown, hfound], by simp [hfilter, hfilters]⟩

theorem mem_of_filter_code {code : Code} {findings ds : List Diagnostic} {d : Diagnostic}
    (h : findings.filter (·.code == code) = ds.map id) :
    d ∈ findings ∧ d.code = code ↔ d ∈ ds := by
  rw [← List.map_id ds, ← h]
  simp [List.mem_filter]

/-- What a rule that looks at one declaration at a time finds in all that there are. -/
theorem mem_flatten_of_mapM {ι δ α : Type} {ids : List ι} {find? : ι → Option δ}
    {rule : δ → List α} {found : List (List α)} (hids : ∀ i x, find? i = some x → i ∈ ids)
    (h : ids.mapM (fun i => (find? i).map rule) = some found) {d : α} :
    d ∈ found.flatten ↔ ∃ i x, find? i = some x ∧ d ∈ rule x := by
  simp only [List.mem_flatten, mem_of_mapM h, Option.map_eq_some_iff]
  constructor
  · rintro ⟨_, ⟨i, -, x, hx, rfl⟩, hd⟩
    exact ⟨i, x, hx, hd⟩
  · rintro ⟨i, x, hx, hd⟩
    exact ⟨_, ⟨i, hids i x hx, x, hx, rfl⟩, hd⟩

namespace Schema

open Validation

variable {s : Schema} {id : FieldId} {ds findings : List Diagnostic} {checkLengths : Bool}
  {code : Code}

/-! ## Classes -/

theorem code_mem_of_classFindings {classes : List (List Diagnostic)}
    (hclasses : s.classIds.mapM (classFindings s) = some classes) :
    ∀ d ∈ classes.flatten, d.code ∈ classCodes := by
  intro d hd
  obtain ⟨ds, hds, hd⟩ := List.mem_flatten.1 hd
  obtain ⟨c, -, hc⟩ := (mem_of_mapM hclasses).1 hds
  obtain ⟨decl, -, hreported⟩ := classFindings_reportedAt hc
  exact (hreported d hd).1

theorem filter_classFindings_naming {c : ClassId} (h : classFindings s c = some ds) :
    ∃ decl, s.class? c = some decl ∧ ds.filter (·.code == .classNameCase) = classNaming decl := by
  simp only [classFindings, Option.bind_eq_bind, Option.bind_eq_some_iff] at h
  obtain ⟨decl, hdecl, parent, hparent, hds⟩ := h
  obtain rfl := Option.some.inj hds
  refine ⟨decl, hdecl, ?_⟩
  simp only [List.filter_append, (classNaming_reportedAt decl).filter_eq_self,
    (finalParent_reportedAt hparent).filter_eq_nil (c := .classNameCase) (by decide),
    List.append_nil]

/-! ## Fields -/

theorem fieldReport_eq_some (h : s.fieldReport id = some ds) :
    ∃ f twins above marker answer, s.field? id = some f ∧ duplicateName s id f = some twins ∧
      shadowing s id f = some above ∧ fieldMarker s f = some marker ∧
      s.answer? f.dataType = some answer ∧
      ds = fieldNaming f ++ twins ++ above ++ marker ++ typeFindings f answer := by
  simp only [fieldReport, fieldShape, Option.bind_eq_bind, Option.bind_eq_some_iff] at h
  obtain ⟨f, hf, shape, ⟨twins, htwins, above, habove, marker, hmarker, hshape⟩, answer, hanswer,
    hds⟩ := h
  obtain rfl := Option.some.inj hshape
  obtain rfl := Option.some.inj hds
  exact ⟨f, twins, above, marker, answer, hf, htwins, habove, hmarker, hanswer, rfl⟩

theorem filter_code_typeFindings (code : Code) (hcode : code ∉ failureCodes) (f : FieldDecl)
    (answer : Except Failure Descriptor) : (typeFindings f answer).filter (·.code == code) = [] :=
  filter_code_eq_nil (fun _ hd => (mem_typeFindings hd).choose_spec.1) hcode

theorem code_mem_of_fieldReports {ids : List FieldId} {fields : List (List Diagnostic)}
    (hfields : ids.mapM s.fieldReport = some fields) :
    ∀ d ∈ fields.flatten, d.code ∈ fieldCodes ++ failureCodes := by
  intro d hd
  obtain ⟨ds, hds, hd⟩ := List.mem_flatten.1 hd
  obtain ⟨id, -, hreport⟩ := (mem_of_mapM hfields).1 hds
  simp only [fieldReport, Option.bind_eq_bind, Option.bind_eq_some_iff] at hreport
  obtain ⟨f, -, shape, hshape, answer, -, hreport⟩ := hreport
  obtain rfl := Option.some.inj hreport
  rcases List.mem_append.1 hd with hd | hd
  · exact List.mem_append_left _ (fieldShape_reportedAt hshape d hd).1
  · exact List.mem_append_right _ (mem_typeFindings hd).choose_spec.1

theorem filter_fieldReport (h : s.fieldReport id = some ds) :
    ∃ f marker, s.field? id = some f ∧ fieldMarker s f = some marker ∧
      ds.filter (·.code == .fieldNameCase) = fieldNaming f ∧
      duplicateName s id f = some (ds.filter (·.code == .duplicateField)) ∧
      shadowing s id f = some (ds.filter (·.code == .shadowedField)) ∧
      ds.filter (·.code == .optionalPrimitive) = marker.filter (·.code == .optionalPrimitive) := by
  obtain ⟨f, twins, above, marker, answer, hf, htwins, habove, hmarker, -, rfl⟩ :=
    fieldReport_eq_some h
  have ofNaming := fieldNaming_reportedAt f
  have ofTwins := duplicateName_reportedAt htwins
  have ofAbove := shadowing_reportedAt habove
  have ofMarker := fieldMarker_reportedAt hmarker
  refine ⟨f, marker, hf, hmarker, ?naming, ?twins, ?above, ?marker⟩
  case naming =>
    simp (disch := decide) only [List.filter_append, ofNaming.filter_eq_self,
      ofTwins.filter_eq_nil, ofAbove.filter_eq_nil, ofMarker.filter_eq_nil,
      filter_code_typeFindings, List.append_nil]
  case twins =>
    simp (disch := decide) only [List.filter_append, ofNaming.filter_eq_nil, htwins,
      ofTwins.filter_eq_self, ofAbove.filter_eq_nil, ofMarker.filter_eq_nil,
      filter_code_typeFindings, List.append_nil, List.nil_append]
  case above =>
    simp (disch := decide) only [List.filter_append, ofNaming.filter_eq_nil,
      ofTwins.filter_eq_nil, habove, ofAbove.filter_eq_self, ofMarker.filter_eq_nil,
      filter_code_typeFindings, List.append_nil, List.nil_append]
  case marker =>
    simp (disch := decide) only [List.filter_append, ofNaming.filter_eq_nil,
      ofTwins.filter_eq_nil, ofAbove.filter_eq_nil, filter_code_typeFindings, List.append_nil,
      List.nil_append]

/-! ## All classes and fields -/

theorem filter_code_lengths (hcode : code ∉ lengthCodes) (checkLengths : Bool) :
    (if checkLengths then lengths s else []).filter (·.code == code) = [] := by
  cases checkLengths with
  | false => rfl
  | true => exact filter_code_eq_nil (fun _ hd => (mem_lengths hd).choose_spec.1) hcode

/-- The findings under the code of a rule for classes are those of the rule, which is told here by
what it produces for each class. -/
theorem filter_freshFindings_classes {α : Type} (code : Code) (rule : ClassId → Option (List α))
    (diagnostic : α → Diagnostic) (hcode : code ∈ classCodes)
    (hrule : ∀ id ds, classFindings s id = some ds → ∃ found, rule id = some found ∧
      ds.filter (·.code == code) = found.map diagnostic)
    (h : s.freshFindings checkLengths = some findings) :
    ∃ found, s.classIds.mapM rule = some found ∧
      findings.filter (·.code == code) = found.flatten.map diagnostic := by
  simp only [freshFindings, Option.bind_eq_bind, Option.bind_eq_some_iff] at h
  obtain ⟨classes, hclasses, fields, hfields, hfindings⟩ := h
  obtain rfl := Option.some.inj hfindings
  have hapart : code ∉ fieldCodes ++ failureCodes ∧ code ∉ lengthCodes :=
    (by decide : ∀ c ∈ classCodes, c ∉ fieldCodes ++ failureCodes ∧ c ∉ lengthCodes) code hcode
  obtain ⟨found, hfound, hfilter⟩ := filter_flatten_of_mapM hrule hclasses
  refine ⟨found, hfound, ?_⟩
  rw [← hfilter]
  simp [List.filter_append, filter_code_eq_nil (code_mem_of_fieldReports hfields) hapart.1,
    filter_code_lengths hapart.2 checkLengths]

theorem filter_freshFindings_fields {α : Type} (code : Code) (rule : FieldId → Option (List α))
    (diagnostic : α → Diagnostic) (hcode : code ∈ fieldCodes)
    (hrule : ∀ id ds, s.fieldReport id = some ds → ∃ found, rule id = some found ∧
      ds.filter (·.code == code) = found.map diagnostic)
    (h : s.freshFindings checkLengths = some findings) :
    ∃ found, s.fieldIds.mapM rule = some found ∧
      findings.filter (·.code == code) = found.flatten.map diagnostic := by
  simp only [freshFindings, Option.bind_eq_bind, Option.bind_eq_some_iff] at h
  obtain ⟨classes, hclasses, fields, hfields, hfindings⟩ := h
  obtain rfl := Option.some.inj hfindings
  have hapart : code ∉ classCodes ∧ code ∉ lengthCodes :=
    (by decide : ∀ c ∈ fieldCodes, c ∉ classCodes ∧ c ∉ lengthCodes) code hcode
  obtain ⟨found, hfound, hfilter⟩ := filter_flatten_of_mapM hrule hfields
  refine ⟨found, hfound, ?_⟩
  rw [← hfilter]
  simp [List.filter_append, filter_code_eq_nil (code_mem_of_classFindings hclasses) hapart.1,
    filter_code_lengths hapart.2 checkLengths]

end Schema

end SchemaTypes
