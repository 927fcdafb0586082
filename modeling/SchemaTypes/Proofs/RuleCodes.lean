/-
Which codes each rule reports, and where.

A rule reports at the declaration that it is asked of, under codes of its own
(`ReportedAt`): a class or field at its own place, whatever other declaration
is involved, and an elementary type for its length at the place of the data
type. Failures to resolve are told from the rest by their codes, and so are
lengths, and nothing that is reported is without a place.
-/
import SchemaTypes.Proofs.FreshCheck
import SchemaTypes.Proofs.PartialMaps
import SchemaTypes.Proofs.ReportFacts

namespace SchemaTypes

/-- Every diagnostic of a list has one of these codes and stands at a place. -/
def ReportedAt (span : Span) (codes : List Code) (ds : List Diagnostic) : Prop :=
  ∀ d ∈ ds, d.code ∈ codes ∧ d.primarySpan? = some span

namespace ReportedAt

variable {span : Span} {codes codes' : List Code} {ds es : List Diagnostic}

theorem mono (h : ReportedAt span codes ds) (hsub : codes ⊆ codes') : ReportedAt span codes' ds :=
  fun d hd => ⟨hsub (h d hd).1, (h d hd).2⟩

theorem nil : ReportedAt span codes [] := by
  simp [ReportedAt]

theorem single {d : Diagnostic} (hcode : d.code ∈ codes) (hspan : d.primarySpan? = some span) :
    ReportedAt span codes [d] := by
  simpa [ReportedAt] using ⟨hcode, hspan⟩

theorem append (h : ReportedAt span codes ds) (h' : ReportedAt span codes es) :
    ReportedAt span codes (ds ++ es) := by
  intro d hd
  rcases List.mem_append.1 hd with hd | hd
  · exact h d hd
  · exact h' d hd

theorem ite {p : Prop} [Decidable p] {d : Diagnostic} (hcode : d.code ∈ codes)
    (hspan : d.primarySpan? = some span) : ReportedAt span codes (if p then [d] else []) := by
  split
  · exact .single hcode hspan
  · exact .nil

theorem mapM {α : Type} {f : α → Option (List Diagnostic)} {xs : List α}
    {found : List (List Diagnostic)} (hf : ∀ x ds, f x = some ds → ReportedAt span codes ds)
    (h : xs.mapM f = some found) : ReportedAt span codes found.flatten := by
  intro d hd
  obtain ⟨ds, hds, hd⟩ := List.mem_flatten.1 hd
  obtain ⟨x, -, hx⟩ := (mem_of_mapM h).1 hds
  exact hf x ds hx d hd

end ReportedAt

namespace Validation

/-- The codes of the rules for classes. -/
def classCodes : List Code :=
  [.classNameCase, .finalExtended]

/-- The codes of the rules for fields that leave their types aside. -/
def fieldCodes : List Code :=
  [.fieldNameCase, .duplicateField, .shadowedField, .markerOnTypedef, .optionalPrimitive]

/-- The codes of the rules for lengths. -/
def lengthCodes : List Code :=
  [.timestampDigits, .numberDigits, .decimalDigits, .decimalScale, .fieldSize]

example : lengthCodes.map Code.text = ["E1010", "E1011", "E1012", "E1013", "E1014"] := rfl

/-- The codes of failures to resolve. -/
def failureCodes : List Code :=
  [.recursiveTypedef, .unmappedType, .missingEnum, .missingPackage]

variable {s : Schema} {id : FieldId} {f : FieldDecl} {ds : List Diagnostic}

theorem classNaming_reportedAt (c : ClassDecl) :
    ReportedAt c.span [.classNameCase] (classNaming c) := by
  unfold classNaming
  split
  · exact .nil
  · exact .single (by simp) rfl

theorem finalParent_reportedAt {c : ClassDecl} (h : finalParent s c = some ds) :
    ReportedAt c.span [.finalExtended] ds := by
  unfold finalParent at h
  split at h
  · obtain rfl := Option.some.inj h
    exact .nil
  · simp only [Option.bind_eq_bind, Option.bind_eq_some_iff] at h
    obtain ⟨d, -, h⟩ := h
    split at h
    · obtain ⟨name, -, h⟩ := Option.bind_eq_some_iff.1 h
      obtain rfl := Option.some.inj h
      exact .single (by simp) rfl
    · obtain rfl := Option.some.inj h
      exact .nil

theorem classFindings_reportedAt {c : ClassId} (h : classFindings s c = some ds) :
    ∃ d, s.class? c = some d ∧ ReportedAt d.span classCodes ds := by
  simp only [classFindings, Option.bind_eq_bind, Option.bind_eq_some_iff] at h
  obtain ⟨d, hd, parent, hparent, hds⟩ := h
  obtain rfl := Option.some.inj hds
  exact ⟨d, hd, ((classNaming_reportedAt d).mono (by decide)).append
    ((finalParent_reportedAt hparent).mono (by decide))⟩

theorem fieldNaming_reportedAt (f : FieldDecl) :
    ReportedAt f.span [.fieldNameCase] (fieldNaming f) := by
  unfold fieldNaming
  split
  · exact .nil
  · exact .single (by simp) rfl

theorem duplicateName_reportedAt (h : duplicateName s id f = some ds) :
    ReportedAt f.span [.duplicateField] ds := by
  simp only [duplicateName, Option.bind_eq_bind, Option.bind_eq_some_iff] at h
  obtain ⟨owner, -, other, -, h⟩ := h
  cases other with
  | none =>
    obtain rfl := Option.some.inj h
    exact .nil
  | some other =>
    obtain ⟨twin, -, h⟩ := Option.bind_eq_some_iff.1 h
    obtain rfl := Option.some.inj h
    exact .single (by simp) rfl

theorem shadowedIn_reportedAt {a : ClassId} (h : shadowedIn s id f a = some ds) :
    ReportedAt f.span [.shadowedField] ds := by
  simp only [shadowedIn, Option.bind_eq_bind, Option.bind_eq_some_iff] at h
  obtain ⟨owner, -, inherited, -, h⟩ := h
  cases inherited with
  | none =>
    obtain rfl := Option.some.inj h
    exact .nil
  | some inherited =>
    obtain ⟨name, -, twin, -, h⟩ := by simpa only [Option.bind_eq_some_iff] using h
    obtain rfl := Option.some.inj h
    exact .single (by simp) rfl

theorem shadowing_reportedAt (h : shadowing s id f = some ds) :
    ReportedAt f.span [.shadowedField] ds := by
  simp only [shadowing, Option.bind_eq_bind, Option.bind_eq_some_iff] at h
  obtain ⟨ancestors, -, found, hfound, hds⟩ := h
  obtain rfl := Option.some.inj hds
  exact .mapM (fun _ _ => shadowedIn_reportedAt) hfound

theorem fieldMarker_reportedAt (h : fieldMarker s f = some ds) :
    ReportedAt f.span [.markerOnTypedef, .optionalPrimitive] ds := by
  unfold fieldMarker at h
  split at h
  · obtain rfl := Option.some.inj h
    exact .nil
  · simp only [Option.bind_eq_bind, Option.bind_eq_some_iff] at h
    obtain ⟨d, -, h⟩ := h
    split at h
    · obtain ⟨name, -, rfl⟩ := Option.map_eq_some_iff.1 h
      exact .single (by simp [markerOnTypedef]) rfl
    · split at h
      · obtain rfl := Option.some.inj h
        exact .single (by simp [optionalPrimitive]) rfl
      · obtain rfl := Option.some.inj h
        exact .nil
    · obtain rfl := Option.some.inj h
      exact .nil

theorem fieldShape_reportedAt (h : fieldShape s id f = some ds) :
    ReportedAt f.span fieldCodes ds := by
  simp only [fieldShape, Option.bind_eq_bind, Option.bind_eq_some_iff] at h
  obtain ⟨twins, htwins, above, habove, marker, hmarker, hds⟩ := h
  obtain rfl := Option.some.inj hds
  have hnaming : ReportedAt f.span fieldCodes (fieldNaming f) :=
    (fieldNaming_reportedAt f).mono (by decide)
  have htwins : ReportedAt f.span fieldCodes twins :=
    (duplicateName_reportedAt htwins).mono (by decide)
  have habove : ReportedAt f.span fieldCodes above :=
    (shadowing_reportedAt habove).mono (by decide)
  have hmarker : ReportedAt f.span fieldCodes marker :=
    (fieldMarker_reportedAt hmarker).mono (by decide)
  exact ((hnaming.append htwins).append habove).append hmarker

theorem lengthFaults_reportedAt (e : Elementary) (span : Span) (rule : LengthRule) :
    ReportedAt span lengthCodes (lengthFaults e span rule) := by
  have hite {p : Prop} [Decidable p] {code : Code} {message declared : String}
      (hcode : code ∈ lengthCodes) : ReportedAt span lengthCodes
        (if p then [lengthFault code span message declared] else []) := .ite hcode rfl
  cases rule with
  | exempt => exact .nil
  | decimalMantissa => exact (hite (by decide)).append (hite (by decide))
  | fractionalSeconds | numberMantissa | size => exact hite (by decide)

theorem dataTypeLength_reportedAt (d : DataType) :
    ReportedAt d.span lengthCodes (dataTypeLength d) := by
  unfold dataTypeLength
  split
  · split
    · exact lengthFaults_reportedAt _ _ _
    · exact .nil
  · exact .nil

end Validation

theorem FailureCause.code_mem (c : FailureCause) : c.code ∈ Validation.failureCodes := by
  cases c <;> decide

/-! ## Everything that is found -/

namespace Schema

open Validation

variable {s : Schema} {findings : List Diagnostic} {d : Diagnostic}

theorem freshFindings_eq (s : Schema) (checkLengths : Bool) : s.freshFindings checkLengths =
    (s.freshFindings false).map (· ++ if checkLengths then lengths s else []) := by
  cases hclasses : s.classIds.mapM (classFindings s) with
  | none => simp [freshFindings, hclasses]
  | some classes =>
    cases hfields : s.fieldIds.mapM s.fieldReport with
    | none => simp [freshFindings, hclasses, hfields]
    | some fields => simp [freshFindings, hclasses, hfields]

theorem mem_typeFindings {f : FieldDecl} {answer : Except Failure Descriptor}
    (hd : d ∈ typeFindings f answer) :
    ∃ span, d.code ∈ failureCodes ∧ d.primarySpan? = some span := by
  cases answer with
  | ok descriptor => cases hd
  | error failure =>
    obtain rfl := List.mem_singleton.1 hd
    exact ⟨failure.span, failure.cause.code_mem, rfl⟩

/-- The rules for classes and fields report under codes of their own, each time at a place. -/
theorem mem_freshFindings (h : s.freshFindings false = some findings) (hd : d ∈ findings) :
    ∃ span, d.code ∈ classCodes ++ fieldCodes ++ failureCodes ∧ d.primarySpan? = some span := by
  simp only [freshFindings, Option.bind_eq_bind, Option.bind_eq_some_iff] at h
  obtain ⟨classes, hclasses, fields, hfields, hfindings⟩ := h
  obtain rfl := Option.some.inj hfindings
  simp only [Bool.false_eq_true, if_false, List.append_nil, List.mem_append, List.mem_flatten,
    mem_of_mapM hclasses, mem_of_mapM hfields] at hd
  rcases hd with ⟨ds, ⟨c, -, hreport⟩, hd⟩ | ⟨ds, ⟨id, -, hreport⟩, hd⟩
  · obtain ⟨decl, -, hreported⟩ := classFindings_reportedAt hreport
    exact ⟨decl.span, by simp [(hreported d hd).1], (hreported d hd).2⟩
  · simp only [fieldReport, Option.bind_eq_bind, Option.bind_eq_some_iff] at hreport
    obtain ⟨f, -, shape, hshape, answer, -, hds⟩ := hreport
    obtain rfl := Option.some.inj hds
    rcases List.mem_append.1 hd with hd | hd
    · obtain ⟨hcode, hspan⟩ := fieldShape_reportedAt hshape d hd
      exact ⟨f.span, by simp [hcode], hspan⟩
    · obtain ⟨span, hcode, hspan⟩ := mem_typeFindings hd
      exact ⟨span, by simp [hcode], hspan⟩

theorem mem_lengths (hd : d ∈ lengths s) :
    ∃ span, d.code ∈ lengthCodes ∧ d.primarySpan? = some span := by
  obtain ⟨x, -, hd⟩ := List.mem_flatMap.1 hd
  exact ⟨x.span, dataTypeLength_reportedAt x d hd⟩

end Schema

end SchemaTypes
