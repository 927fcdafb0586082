/-
Circles of typedefs in the report of a check.

A circle is named after the typedef of the first data type that the walk along
the aliases visits twice, so which name a walk gives depends on where it comes
to the circle. But that typedef is always on the circle
(`Closed.onCircle_of_answers`), and the walk that starts behind the typedef
before it gives its name (`Closed.exists_answers_of_onCircle`). A check starts
a walk behind every typedef, so together the names are those of the typedefs
on circles, all of them and no others.
-/
import SchemaTypes.Proofs.FailureReports
import SchemaTypes.Proofs.Verdict

namespace SchemaTypes

namespace Schema

/-- The typedef that a typedef is an alias of, if it is an alias. -/
def nextTypedef? (s : Schema) (t : TypedefId) : Option TypedefId := do
  let d ← s.typedef? t
  s.alias? d.dataType

/-- Following aliases from a typedef leads back to it. -/
def OnCircle (s : Schema) (t : TypedefId) : Prop :=
  ∃ u xs, s.nextTypedef? t = some u ∧ Path s.nextTypedef? u xs t

/-- A typedef has a qualified name and a place. -/
def DeclaredAs (s : Schema) (t : TypedefId) (name : String) (span : Span) : Prop :=
  s.typedefName t = some name ∧ (s.typedef? t).map (·.span) = some span

variable {s : Schema} {t u : TypedefId} {x y z : DataTypeId}

theorem nextTypedef?_eq_some : s.nextTypedef? t = some u ↔
    ∃ d, s.typedef? t = some d ∧ s.alias? d.dataType = some u := by
  simp [nextTypedef?, Option.bind_eq_some_iff]

/-! ## Typedefs and the data types behind them -/

/-- A way along data types is one along the typedefs that they name. -/
theorem exists_typedef_path {xs : List DataTypeId} (way : Path s.aliased? x xs z)
    (hx : s.alias? x = some t) (hz : s.alias? z = some u) :
    ∃ ts, Path s.nextTypedef? t ts u := by
  induction way generalizing t with
  | here =>
    obtain rfl := Option.some.inj (hx.symm.trans hz)
    exact ⟨[], .here t⟩
  | @step x y z xs link rest ih =>
    obtain ⟨t', d, ht', hd, rfl⟩ := aliased?_eq_some.1 link
    obtain rfl := Option.some.inj (hx.symm.trans ht')
    -- The data type behind `t` names a typedef too: it has a link, or it is the last one.
    obtain ⟨v, hv⟩ : ∃ v, s.alias? d.dataType = some v := by
      cases rest with
      | here => exact ⟨u, hz⟩
      | step link _ => exact alias?_of_aliased? link
    obtain ⟨ts, hts⟩ := ih hv hz
    exact ⟨t :: ts, .step (nextTypedef?_eq_some.2 ⟨d, hd, hv⟩) hts⟩

theorem exists_dataType_path {ts : List TypedefId} (way : Path s.nextTypedef? t ts u)
    {d e : TypedefDecl} (hd : s.typedef? t = some d) (he : s.typedef? u = some e) :
    ∃ xs, Path s.aliased? d.dataType xs e.dataType := by
  induction way generalizing d with
  | here =>
    obtain rfl := Option.some.inj (hd.symm.trans he)
    exact ⟨[], .here _⟩
  | @step t v u ts link rest ih =>
    obtain ⟨d', hd', hv⟩ := nextTypedef?_eq_some.1 link
    obtain rfl := Option.some.inj (hd.symm.trans hd')
    obtain ⟨f, hf⟩ : ∃ f, s.typedef? v = some f := by
      cases rest with
      | here => exact ⟨e, he⟩
      | step link _ =>
        obtain ⟨f, hf, -⟩ := nextTypedef?_eq_some.1 link
        exact ⟨f, hf⟩
    obtain ⟨xs, hxs⟩ := ih hf he
    exact ⟨_, .step (aliased?_eq_some.2 ⟨v, f, hv, hf, rfl⟩) hxs⟩

/-! ## Which typedef a walk names -/

/-- A failure for a circle names a typedef on the circle. -/
theorem onCircle_of_answers {failure : Failure} (h : s.Answers x (.error failure))
    (hcause : failure.cause = .recursiveTypedef) :
    ∃ t, s.OnCircle t ∧ s.DeclaredAs t failure.name failure.span := by
  cases h with
  | failed way ending =>
    cases ending with
    | failing hd hform hfails => exact absurd hcause (elementaryTarget_not_circular hfails)
  | @circular xs z t d name way fresh again ht hd hname =>
    refine ⟨t, ?_, hname, by simp [hd]⟩
    obtain ⟨ys, zs, -, -, hreturn⟩ := way.split again
    cases hreturn with
    | @step _ y _ _ link rest =>
      obtain ⟨t', d', ht', hd', rfl⟩ := aliased?_eq_some.1 link
      obtain rfl := Option.some.inj (ht.symm.trans ht')
      obtain ⟨u, hu⟩ : ∃ u, s.alias? d'.dataType = some u := by
        cases rest with
        | here => exact ⟨t, ht⟩
        | step link _ => exact alias?_of_aliased? link
      obtain ⟨ts, hts⟩ := exists_typedef_path rest hu ht
      exact ⟨u, ts, nextTypedef?_eq_some.2 ⟨d', hd', hu⟩, hts⟩

/-- Each typedef on a circle is named by the walk behind the typedef before it. -/
theorem exists_answers_of_onCircle (ht : s.OnCircle t) {name : String} {span : Span}
    (hdeclared : s.DeclaredAs t name span) :
    ∃ u d, s.typedef? u = some d ∧
      s.Answers d.dataType (.error ⟨.recursiveTypedef, name, span⟩) := by
  obtain ⟨hname, hspan⟩ := hdeclared
  obtain ⟨td, htd, rfl⟩ := Option.map_eq_some_iff.1 hspan
  obtain ⟨v, ts, hv, hback⟩ := ht
  obtain ⟨ts, u, hway, hlast⟩ := (Path.step hv hback).exists_last (List.cons_ne_nil _ _)
  obtain ⟨ud, hud, halias⟩ := nextTypedef?_eq_some.1 hlast
  -- From the data type behind `u` the walk goes by way of `t` and comes back to it first.
  obtain ⟨xs, hxs⟩ := exists_dataType_path hway htd hud
  obtain ⟨ys, hys, hnodup⟩ := hxs.exists_nodup
  have hlink : s.aliased? ud.dataType = some td.dataType :=
    aliased?_eq_some.2 ⟨t, td, halias, htd, rfl⟩
  refine ⟨u, ud, hud, .circular (.step hlink hys) ?_ List.mem_cons_self halias htd hname⟩
  exact (List.perm_append_singleton _ _).nodup_iff.1 hnodup

end Schema

/-! ## The reports -/

/-- The key under which a typedef is reported as recursive. -/
def circleKey (name : String) (span : Span) : FailureKey :=
  ⟨.recursiveTypedef, "recursive typedefs around `" ++ name ++ "`", some span⟩

/-- A diagnostic reports a typedef, by its qualified name and its place, as recursive. -/
structure Diagnostic.NamesCircle (name : String) (span : Span) (d : Diagnostic) : Prop where
  code : d.code = .recursiveTypedef
  message : d.message = "recursive typedefs around `" ++ name ++ "`"
  place : d.primarySpan? = some span

namespace Diagnostic

variable {name : String} {span : Span} {d : Diagnostic}

theorem namesCircle_iff : d.NamesCircle name span ↔ d.failureKey = circleKey name span := by
  simp only [failureKey, circleKey, FailureKey.mk.injEq]
  exact ⟨fun h => ⟨h.code, h.message, h.place⟩, fun ⟨hcode, hmessage, hplace⟩ =>
    ⟨hcode, hmessage, hplace⟩⟩

instance : DecidablePred (NamesCircle name span) := fun _ =>
  decidable_of_iff _ namesCircle_iff.symm

theorem exists_namesCircle_iff {ds : List Diagnostic} :
    (∃ d ∈ ds, d.NamesCircle name span) ↔ circleKey name span ∈ ds.map (·.failureKey) := by
  simp only [namesCircle_iff, List.mem_map]

theorem countP_namesCircle (ds : List Diagnostic) :
    ds.countP (NamesCircle name span) =
      (ds.map (·.failureKey)).count (circleKey name span) := by
  rw [List.count, List.countP_map]
  exact List.countP_congr fun d _ => by simp [namesCircle_iff]

end Diagnostic

namespace Schema

variable {s : Schema} {checkLengths : Bool} {findings failures : List Diagnostic}
  {name : String} {span : Span} {failure : Failure}

theorem failureKey_of_cause (h : failure.cause = .recursiveTypedef) :
    failure.toDiagnostic.failureKey = circleKey failure.name failure.span := by
  obtain ⟨cause, name, span⟩ := failure
  obtain rfl : cause = .recursiveTypedef := h
  rfl

/-- The rules find a circle where a field leads into it. -/
theorem circleKey_mem_findings (h : s.freshFindings checkLengths = some findings) :
    circleKey name span ∈ findings.map (·.failureKey) ↔ ∃ id f, s.field? id = some f ∧
      s.answer? f.dataType = some (.error ⟨.recursiveTypedef, name, span⟩) :=
  failureKey_mem_findings h ⟨.recursiveTypedef, name, span⟩

theorem circleKey_mem_failures (h : s.typedefFailures = some failures) :
    circleKey name span ∈ failures.map (·.failureKey) ↔ ∃ t td, s.typedef? t = some td ∧
      s.answer? td.dataType = some (.error ⟨.recursiveTypedef, name, span⟩) :=
  failureKey_mem_failures h ⟨.recursiveTypedef, name, span⟩

/-- Found are the circles' own typedefs, each of them behind some typedef. -/
theorem Closed.circleKey_mem_iff (hs : s.Closed)
    (hfindings : s.freshFindings checkLengths = some findings)
    (hfailures : s.typedefFailures = some failures) :
    circleKey name span ∈ findings.map (·.failureKey) ∨
        circleKey name span ∈ failures.map (·.failureKey) ↔
      ∃ t, s.OnCircle t ∧ s.DeclaredAs t name span := by
  rw [circleKey_mem_findings hfindings, circleKey_mem_failures hfailures]
  constructor
  · rintro (⟨_, _, -, hanswer⟩ | ⟨_, _, -, hanswer⟩)
    · exact onCircle_of_answers (hs.answer?_eq_some.1 hanswer) rfl
    · exact onCircle_of_answers (hs.answer?_eq_some.1 hanswer) rfl
  · rintro ⟨t, ht, hdeclared⟩
    obtain ⟨u, d, hd, hanswer⟩ := exists_answers_of_onCircle ht hdeclared
    exact .inr ⟨u, d, hd, hs.answer?_eq_some.2 hanswer⟩

theorem exists_namesCircle (hfindings : s.freshFindings checkLengths = some findings)
    (hfailures : s.typedefFailures = some failures) {d : Diagnostic}
    (hd : d ∈ (wholeReport findings failures).diagnostics) (hcode : d.code = .recursiveTypedef) :
    ∃ name span, d.NamesCircle name span := by
  have hstage : d.code.stage ≠ .structural := by simp [hcode, Code.stage]
  have named : ∀ failure : Failure, d.failureKey = failure.toDiagnostic.failureKey →
      ∃ name span, d.NamesCircle name span := by
    intro failure hkey
    have hcause : failure.cause = .recursiveTypedef :=
      FailureCause.code_injective ((congrArg FailureKey.code hkey).symm.trans hcode)
    exact ⟨_, _, Diagnostic.namesCircle_iff.2 (hkey.trans (failureKey_of_cause hcause))⟩
  rcases List.mem_append.1 ((perm_wholeReport findings failures).mem_iff.1 hd) with hd | hd
  · obtain ⟨_, f, failure, -, -, rfl⟩ := (mem_freshFindings_iff hfindings hstage).1 hd
    exact named failure rfl
  · obtain ⟨_, _, failure, -, -, rfl⟩ :=
      (mem_typedefFailures_iff hfailures).1 ((unseen_sublist _ _).mem hd)
    exact named failure rfl

/-- Where no field leads into a circle, each circle's typedef is reported once. -/
theorem count_circleKey (hnone : circleKey name span ∉ findings.map (·.failureKey))
    (hsome : circleKey name span ∈ failures.map (·.failureKey)) :
    ((wholeReport findings failures).diagnostics.map (·.failureKey)).count
      (circleKey name span) = 1 := by
  have hperm := (perm_wholeReport findings failures).map (·.failureKey)
  rw [List.map_append] at hperm
  exact count_eq_one_of_new hperm (nodup_keys_unseen _ _) hnone
    (mem_keys_unseen.2 ⟨hsome, hnone⟩)

/-! ## Typedefs in a circle that no field uses -/

/-- In package `p` the typedefs `A` and `B` stand for each other, and `C` for `A`. -/
def unusedCircleCalls : List Draft.Call :=
  [.addPackage "p", .addTypedef (some ⟨0⟩) "A", .addTypedef (some ⟨0⟩) "B",
   .addTypedef (some ⟨0⟩) "C", .define ⟨0⟩ (.alias ⟨1⟩), .define ⟨1⟩ (.alias ⟨0⟩),
   .define ⟨2⟩ (.alias ⟨0⟩)]

def unusedCircle : Schema where
  names := ["p", "A", "B", "C"].foldl NameTable.insert .empty
  packages := #[{ name := "p" }]
  classes := #[]
  fields := #[]
  typedefs := #[{ name := "A", package := some ⟨0⟩, dataType := ⟨0⟩ },
    { name := "B", package := some ⟨0⟩, dataType := ⟨1⟩ },
    { name := "C", package := some ⟨0⟩, dataType := ⟨2⟩ }]
  enums := #[]
  dataTypes := #[{ form := .alias ⟨1⟩, owner := .typedef ⟨0⟩ },
    { form := .alias ⟨0⟩, owner := .typedef ⟨1⟩ }, { form := .alias ⟨0⟩, owner := .typedef ⟨2⟩ }]

theorem unusedCircle_wellFormed : unusedCircle.WellFormed where
  drafted := ⟨unusedCircleCalls, _, rfl, rfl⟩
  closed := by decide

end Schema

namespace Run

variable {s : Schema} {checkLengths : Bool} {r : Run}

/-- **A check names exactly the typedefs on circles.** Every diagnostic for a recursive typedef
gives a qualified name and a place, and those given are the names and places of the typedefs
from which following aliases leads back to them. Unless the type of some field fails, each is
given once. -/
theorem check_namesCircle_iff_onCircle (h : s.WellFormed) (hr : Reached s checkLengths r) :
    ∃ report r', r.check = some (report, r') ∧
      (∀ d ∈ report.diagnostics, d.code = .recursiveTypedef →
        ∃ name span, d.NamesCircle name span) ∧
      (∀ name span, (∃ d ∈ report.diagnostics, d.NamesCircle name span) ↔
        ∃ t, s.OnCircle t ∧ s.DeclaredAs t name span) ∧
      ((∀ id f failure, s.field? id = some f → ¬s.Answers f.dataType (.error failure)) →
        ∀ t name span, s.OnCircle t → s.DeclaredAs t name span →
          report.diagnostics.countP (Diagnostic.NamesCircle name span) = 1) := by
  obtain ⟨findings, failures, r', hfindings, hfailures, hcheck⟩ := hr.exists_report h
  have hfound (name span) : circleKey name span ∈ findings.map (·.failureKey) ∨
      circleKey name span ∈ failures.map (·.failureKey) ↔
        ∃ t, s.OnCircle t ∧ s.DeclaredAs t name span :=
    h.closed.circleKey_mem_iff hfindings hfailures
  refine ⟨_, r', hcheck, fun d hd => Schema.exists_namesCircle hfindings hfailures hd,
    fun name span => ?_, fun hfields t name span ht hdeclared => ?_⟩
  · rw [Diagnostic.exists_namesCircle_iff, Schema.mem_keys_wholeReport, hfound]
  · have hnone : circleKey name span ∉ findings.map (·.failureKey) := by
      rw [Schema.circleKey_mem_findings hfindings]
      rintro ⟨id, f, hf, hanswer⟩
      exact hfields id f _ hf (h.closed.answer?_eq_some.1 hanswer)
    rw [Diagnostic.countP_namesCircle]
    exact Schema.count_circleKey hnone
      (((hfound name span).2 ⟨t, ht, hdeclared⟩).resolve_left hnone)

/-- `A` and `B` are reported once each; `C`, which only leads to them, is not. -/
theorem check_namesCircle_iff_onCircle_unused :
    Schema.unusedCircle.WellFormed ∧
    Reached Schema.unusedCircle true (start Schema.unusedCircle true) ∧
    ∃ report r', (start Schema.unusedCircle true).check = some (report, r') ∧
      report.diagnostics.countP (Diagnostic.NamesCircle "p.A" .absent) = 1 ∧
      report.diagnostics.countP (Diagnostic.NamesCircle "p.B" .absent) = 1 := by
  have hr : Reached Schema.unusedCircle true (start Schema.unusedCircle true) := .start .empty
  obtain ⟨report, r', hcheck, -, -, honce⟩ :=
    check_namesCircle_iff_onCircle Schema.unusedCircle_wellFormed hr
  have hfields : ∀ id f failure, Schema.unusedCircle.field? id = some f →
      ¬Schema.unusedCircle.Answers f.dataType (.error failure) := by
    intro id f failure hf
    simp [Schema.field?, Schema.unusedCircle] at hf
  refine ⟨Schema.unusedCircle_wellFormed, hr, report, r', hcheck,
    honce hfields ⟨0⟩ "p.A" .absent ?_ ⟨rfl, rfl⟩, honce hfields ⟨1⟩ "p.B" .absent ?_ ⟨rfl, rfl⟩⟩
  · exact ⟨⟨1⟩, [⟨1⟩], rfl, .step rfl (.here _)⟩
  · exact ⟨⟨0⟩, [⟨0⟩], rfl, .step rfl (.here _)⟩

end Run

end SchemaTypes
