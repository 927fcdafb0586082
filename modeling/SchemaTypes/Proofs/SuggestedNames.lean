/-
The new names that are offered for classes and fields.

A class whose name does not start with an upper case letter is offered that
name capitalized, a field whose name does not start with a lower case letter
the name with its first character in lower case. The offer helps exactly if it
is another name than the declared one: a digit, an underscore or a letter of
one case only stays what it is, and then the declared name itself is offered.
Of all characters that change only `ŉ` becomes no letter that may come first
(`Text.startsUppercase_capitalize_iff`).
-/
import SchemaTypes.Proofs.CaseMapping
import SchemaTypes.Proofs.FindingsByCode
import SchemaTypes.Proofs.Verdict

namespace SchemaTypes

/-- A diagnostic offers one name in the place of a declared one that does not meet a demand. The
offered name meets it exactly if it is another one, with some first characters excepted. -/
structure Diagnostic.Offers (d : Diagnostic) (meets : String → Bool) (except : List Char)
    (declared offered : String) : Prop where
  only : d.suggestions.map (·.replacement) = [some offered]
  violated : ¬meets declared
  meets_iff : meets offered ↔ offered ≠ declared ∧ ∀ c ∈ declared.toList.head?, c ∉ except

namespace Validation

variable {d : Diagnostic}

theorem classNaming_offers {c : ClassDecl} (hd : d ∈ classNaming c) :
    d.Offers Text.startsUppercase ['ŉ'] c.name (Text.capitalize c.name) := by
  unfold classNaming at hd
  split at hd
  · cases hd
  · next hname =>
    obtain rfl := List.mem_singleton.1 hd
    refine ⟨rfl, hname, (Text.startsUppercase_capitalize_iff hname).trans ?_⟩
    cases c.name.toList.head? <;> simp

theorem fieldNaming_offers {f : FieldDecl} (hd : d ∈ fieldNaming f) :
    d.Offers Text.startsLowercase [] f.name (Text.uncapitalize f.name) := by
  unfold fieldNaming at hd
  split at hd
  · cases hd
  · next hname =>
    obtain rfl := List.mem_singleton.1 hd
    exact ⟨rfl, hname, by simpa using Text.startsLowercase_uncapitalize_iff hname⟩

theorem exists_mem_classNaming {c : ClassDecl} (h : ¬Text.startsUppercase c.name) :
    ∃ d ∈ classNaming c, d.suggestions.map (·.replacement) = [some (Text.capitalize c.name)] := by
  rw [classNaming, if_neg h]
  exact ⟨_, List.mem_singleton_self _, rfl⟩

theorem exists_mem_fieldNaming {f : FieldDecl} (h : ¬Text.startsLowercase f.name) :
    ∃ d ∈ fieldNaming f, d.suggestions.map (·.replacement) = [some (Text.uncapitalize f.name)] := by
  rw [fieldNaming, if_neg h]
  exact ⟨_, List.mem_singleton_self _, rfl⟩

end Validation

namespace Schema

open Validation

variable {s : Schema} {findings : List Diagnostic} {checkLengths : Bool} {d : Diagnostic}

theorem mem_classNamings (h : s.freshFindings checkLengths = some findings) :
    d ∈ findings ∧ d.code = .classNameCase ↔
      ∃ id c, s.class? id = some c ∧ d ∈ classNaming c := by
  obtain ⟨found, hfound, hfilter⟩ :=
    filter_freshFindings_classes .classNameCase (fun id => (s.class? id).map classNaming) id
      (by decide) (fun id ds hreport => by
        obtain ⟨c, hc, hnaming⟩ := filter_classFindings_naming hreport
        exact ⟨classNaming c, by simp [hc], by simp [hnaming]⟩) h
  rw [mem_of_filter_code hfilter]
  exact mem_flatten_of_mapM (fun id c hc => mem_classIds.2 ⟨c, hc⟩) hfound

theorem mem_fieldNamings (h : s.freshFindings checkLengths = some findings) :
    d ∈ findings ∧ d.code = .fieldNameCase ↔
      ∃ id f, s.field? id = some f ∧ d ∈ fieldNaming f := by
  obtain ⟨found, hfound, hfilter⟩ :=
    filter_freshFindings_fields .fieldNameCase (fun id => (s.field? id).map fieldNaming) id
      (by decide) (fun id ds hreport => by
        obtain ⟨f, -, hf, -, hnaming, -⟩ := filter_fieldReport hreport
        exact ⟨fieldNaming f, by simp [hf], by simp [hnaming]⟩) h
  rw [mem_of_filter_code hfilter]
  exact mem_flatten_of_mapM (fun id f hf => mem_fieldIds.2 ⟨f, hf⟩) hfound

/-- **When an offered name helps.** Every diagnostic of a validation for the name of a class or of
a field offers one new name. Declared so, the class or field meets the rule exactly if the offered
name is another one than the declared one, and the declared name of a class does not begin
with `ŉ`. -/
theorem renames_of_validate (h : s.WellFormed) {m : Memo}
    {calls : List (DataTypeId × Except Failure Descriptor)} (hm : Memo.Reached s calls m)
    (checkLengths : Bool) : ∃ report m',
      s.validate checkLengths m = some (report, m') ∧ ∀ d ∈ report.diagnostics,
        (d.code = .classNameCase → ∃ id c offered, s.class? id = some c ∧ d ∈ classNaming c ∧
          d.Offers Text.startsUppercase ['ŉ'] c.name offered ∧
          (classNaming { c with name := offered } = [] ↔ Text.startsUppercase offered)) ∧
        (d.code = .fieldNameCase → ∃ id f offered, s.field? id = some f ∧ d ∈ fieldNaming f ∧
          d.Offers Text.startsLowercase [] f.name offered ∧
          (fieldNaming { f with name := offered } = [] ↔ Text.startsLowercase offered)) := by
  obtain ⟨findings, m', hfindings, hvalidate⟩ := h.exists_validate hm checkLengths
  refine ⟨_, m', hvalidate, fun d hd => ?_⟩
  have hd : d ∈ findings := (Report.perm_ofDiagnostics findings).mem_iff.1 hd
  constructor
  · intro hcode
    obtain ⟨id, c, hc, hnaming⟩ := (mem_classNamings hfindings).1 ⟨hd, hcode⟩
    exact ⟨id, c, _, hc, hnaming, classNaming_offers hnaming, (classNaming_tells _).eq_nil_iff⟩
  · intro hcode
    obtain ⟨id, f, hf, hnaming⟩ := (mem_fieldNamings hfindings).1 ⟨hd, hcode⟩
    exact ⟨id, f, _, hf, hnaming, fieldNaming_offers hnaming, (fieldNaming_tells _).eq_nil_iff⟩

/-! ## Names without letters first -/

/-- In package `p` the class `_order` has a field `_Total`. -/
def underscoredCalls : List Draft.Call :=
  [.addPackage "p", .addClass (some ⟨0⟩) "_order",
   .addField ⟨0⟩ "_Total" (.elementary { name := "int" })]

def underscored : Schema where
  names := ["p", "_order", "_Total"].foldl NameTable.insert .empty
  packages := #[{ name := "p" }]
  classes := #[{ name := "_order", package := some ⟨0⟩, fields := #[⟨0⟩] }]
  fields := #[{ name := "_Total", owner := ⟨0⟩, dataType := ⟨0⟩ }]
  typedefs := #[]
  enums := #[]
  dataTypes := #[{ form := .elementary { name := "int" }, owner := .field ⟨0⟩ }]

theorem underscored_wellFormed : underscored.WellFormed where
  drafted := ⟨underscoredCalls, _, rfl, rfl⟩
  closed := by decide

theorem underscored_first :
    (Text.startsUppercase "_order" = false ∧ Text.capitalize "_order" = "_order") ∧
      Text.startsLowercase "_Total" = false ∧ Text.uncapitalize "_Total" = "_Total" := by
  decide +kernel

/-- Whatever a validation of it reports, both names are among it, each with itself as the new
name. -/
theorem offered_underscored {report : Report} {m' : Memo}
    (h : underscored.validate true .empty = some (report, m')) :
    (∃ d ∈ report.diagnostics, d.code = .classNameCase ∧
      d.suggestions.map (·.replacement) = [some "_order"]) ∧
    (∃ d ∈ report.diagnostics, d.code = .fieldNameCase ∧
      d.suggestions.map (·.replacement) = [some "_Total"]) := by
  obtain ⟨findings, m'', hfindings, hvalidate⟩ := underscored_wellFormed.exists_validate .start true
  obtain ⟨rfl, rfl⟩ := Prod.mk.inj (Option.some.inj (hvalidate.symm.trans h))
  have hreport := Report.perm_ofDiagnostics findings
  obtain ⟨horder, htotal⟩ := underscored_first
  constructor
  · obtain ⟨d, hd, hrename⟩ := exists_mem_classNaming
      (c := { name := "_order", package := some ⟨0⟩, fields := #[⟨0⟩] }) (by simp [horder.1])
    obtain ⟨hd, hcode⟩ := (mem_classNamings hfindings).2 ⟨⟨0⟩, _, rfl, hd⟩
    exact ⟨d, hreport.mem_iff.2 hd, hcode, by rw [hrename, horder.2]⟩
  · obtain ⟨d, hd, hrename⟩ := exists_mem_fieldNaming
      (f := { name := "_Total", owner := ⟨0⟩, dataType := ⟨0⟩ }) (by simp [htotal.1])
    obtain ⟨hd, hcode⟩ := (mem_fieldNamings hfindings).2 ⟨⟨0⟩, _, rfl, hd⟩
    exact ⟨d, hreport.mem_iff.2 hd, hcode, by rw [hrename, htotal.2]⟩

/-- The report names `_order`, and what it offers does not help, for it is `_order` again. -/
theorem renames_of_validate_underscored : underscored.WellFormed ∧
    Memo.Reached underscored [] .empty ∧ ∃ report m',
      underscored.validate true .empty = some (report, m') ∧ ∃ d ∈ report.diagnostics,
        d.code = .classNameCase ∧ d.suggestions.map (·.replacement) = [some "_order"] ∧
          d.Offers Text.startsUppercase ['ŉ'] "_order" "_order" := by
  obtain ⟨report, m', hvalidate, hall⟩ := renames_of_validate underscored_wellFormed .start true
  obtain ⟨d, hd, hcode, hreplacement⟩ := (offered_underscored hvalidate).1
  obtain ⟨⟨index⟩, c, offered, hc, -, hoffers, -⟩ := (hall d hd).1 hcode
  cases index with
  | succ index => cases hc
  | zero =>
    obtain rfl := Option.some.inj hc
    obtain rfl : offered = "_order" := by simpa using hoffers.only.symm.trans hreplacement
    exact ⟨underscored_wellFormed, .start, report, m', hvalidate, d, hd, hcode, hreplacement,
      hoffers⟩

/-- **A name may be offered in its own place.** The class `_order` is to be renamed to `_order` and
the field `_Total` to `_Total`, which do not meet the rules. -/
theorem renamed_to_itself : underscored.WellFormed ∧ ∃ report m',
    underscored.validate true .empty = some (report, m') ∧
    (∃ d ∈ report.diagnostics, d.code = .classNameCase ∧
      d.suggestions.map (·.replacement) = [some "_order"]) ∧
    (∃ d ∈ report.diagnostics, d.code = .fieldNameCase ∧
      d.suggestions.map (·.replacement) = [some "_Total"]) ∧
    Text.startsUppercase "_order" = false ∧ Text.startsLowercase "_Total" = false := by
  obtain ⟨findings, m', -, hvalidate⟩ := underscored_wellFormed.exists_validate .start true
  obtain ⟨horder, htotal⟩ := offered_underscored hvalidate
  exact ⟨underscored_wellFormed, _, m', hvalidate, horder, htotal, underscored_first.1.1,
    underscored_first.2.1⟩

end Schema

end SchemaTypes
