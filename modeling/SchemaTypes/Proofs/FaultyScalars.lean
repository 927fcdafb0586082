/-
The scalars at which data types fail to resolve, and how many of them a check
reports.

Every field whose type ends at a faulty scalar is reported
(`Closed.countP_findings`), so a faulty scalar behind a field is reported at
least once. The failures of typedefs are told apart by their keys, that is by
cause, name and place. So of the scalars that only typedefs lead to, those that
agree in all three are reported together (`Closed.countP_added`), and a check
may report fewer failures than there are faulty scalars. Where no two agree, it
reports at least as many (`FaultsApart.ncard_union_le`).
-/
import Mathlib.Data.Set.Card
import Mathlib.Data.Set.Finite.Lattice
import SchemaTypes.Proofs.AddedFailures

namespace SchemaTypes

/-- Whether a diagnostic reports that a scalar has no target. -/
def Diagnostic.isScalarFailure (d : Diagnostic) : Bool :=
  d.code ∈ [Code.unmappedType, .missingEnum, .missingPackage]

theorem Diagnostic.isFailure_of_isScalarFailure {d : Diagnostic} (h : d.isScalarFailure) :
    d.isFailure := by
  unfold isScalarFailure at h
  unfold isFailure
  rw [decide_eq_true_iff] at h ⊢
  exact List.mem_cons_of_mem _ h

theorem ncard_mem_and {α : Type} {l : List α} (hl : l.Nodup) (p : α → Bool) :
    Set.ncard {x | x ∈ l ∧ p x} = l.countP p := by
  classical
  have hset : {x | x ∈ l ∧ p x} = ((l.filter p).toFinset : Set α) := by
    ext x
    simp
  rw [hset, Set.ncard_coe_finset, List.toFinset_card_of_nodup (hl.filter _),
    List.countP_eq_length_filter]

/-- A set has no more members than another one if each member has a partner there and no two
members share one. -/
theorem ncard_le_of_partner {α β : Type} {S : Set α} {T : Set β} {R : α → β → Prop}
    (hT : T.Finite) (hsome : ∀ a ∈ S, ∃ b ∈ T, R a b)
    (hsame : ∀ a ∈ S, ∀ a' ∈ S, ∀ b, R a b → R a' b → a = a') : S.ncard ≤ T.ncard := by
  rcases S.eq_empty_or_nonempty with rfl | ⟨a, ha⟩
  · simp
  · obtain ⟨b, -, -⟩ := hsome a ha
    have : Nonempty β := ⟨b⟩
    choose! partner hmem hpartner using hsome
    refine Set.ncard_le_ncard_of_injOn partner hmem (fun a ha a' ha' heq => ?_) hT
    exact hsame a ha a' ha' _ (hpartner a ha) (heq ▸ hpartner a' ha')

namespace Schema

/-- Following typedefs from `x` ends at the scalar `z`, which fails by itself. -/
def FaultAt (s : Schema) (x z : DataTypeId) (failure : Failure) : Prop :=
  (∃ xs, Path s.aliased? x xs z) ∧ s.Terminal z (.error failure)

/-- The faulty scalars to which some of the data types lead. -/
def faults (s : Schema) (xs : Set DataTypeId) : Set DataTypeId :=
  {z | ∃ x ∈ xs, ∃ failure, s.FaultAt x z failure}

def fieldTypes (s : Schema) : Set DataTypeId :=
  {x | ∃ id f, s.field? id = some f ∧ f.dataType = x}

def typedefTypes (s : Schema) : Set DataTypeId :=
  {x | ∃ t d, s.typedef? t = some d ∧ d.dataType = x}

/-- The faulty scalars behind fields. -/
def fieldFaults (s : Schema) : Set DataTypeId :=
  s.faults s.fieldTypes

/-- The faulty scalars behind typedefs, used or not. -/
def typedefFaults (s : Schema) : Set DataTypeId :=
  s.faults s.typedefTypes

/-- The fields whose types end at faulty scalars. -/
def faultyFields (s : Schema) : Set FieldId :=
  {id | ∃ f, s.field? id = some f ∧ ∃ z failure, s.FaultAt f.dataType z failure}

/-- How the scalars fail. -/
def failuresAt (s : Schema) (zs : Set DataTypeId) : Set Failure :=
  {failure | ∃ z ∈ zs, s.Terminal z (.error failure)}

/-- A faulty scalar that only typedefs lead to differs from every other one in its cause, its name
or its place. -/
def FaultsApart (s : Schema) : Prop :=
  ∀ z ∈ s.typedefFaults \ s.fieldFaults, ∀ z' ∈ s.fieldFaults ∪ s.typedefFaults, ∀ failure,
    s.Terminal z (.error failure) → s.Terminal z' (.error failure) → z = z'

variable {s : Schema} {checkLengths : Bool} {findings failures : List Diagnostic}
  {x z z' : DataTypeId} {failure failure' : Failure}

/-! ## Faulty scalars and answers -/

theorem Terminal.cause (h : s.Terminal z (.error failure)) :
    failure.cause ≠ .recursiveTypedef := by
  cases h with
  | failing _ _ hfails => exact elementaryTarget_not_circular hfails

theorem FaultAt.answers (h : s.FaultAt x z failure) : s.Answers x (.error failure) := by
  obtain ⟨⟨xs, way⟩, ending⟩ := h
  exact .failed way ending

theorem FaultAt.unique (h : s.FaultAt x z failure) (h' : s.FaultAt x z' failure') : z = z' := by
  obtain ⟨⟨xs, way⟩, ending⟩ := h
  obtain ⟨⟨xs', way'⟩, ending'⟩ := h'
  exact (way.end_unique ending.aliased?_eq_none way' ending'.aliased?_eq_none).2

theorem terminal_of_unmapped {d : DataType} {e : Elementary} {c : Cascade}
    (hd : s.dataType? z = some d) (hform : d.form = .elementary e)
    (hcascade : Cascade.ofDataType s z = some (some c)) (hname : Kind.ofName? e.name = none) :
    s.Terminal z (.error ⟨.unmappedType, e.name, d.span⟩) := by
  refine .failing hd hform ?_
  simp [elementaryTarget, Attributes.ofDataType, hcascade, hd, Spelling.ofName?_canonical, hname]

/-- A failure that is not for a circle is that of a scalar. -/
theorem exists_faultAt_iff : (∃ z, s.FaultAt x z failure) ↔
    s.Answers x (.error failure) ∧ failure.cause ≠ .recursiveTypedef := by
  constructor
  · rintro ⟨z, h⟩
    exact ⟨h.answers, h.2.cause⟩
  · rintro ⟨hanswer, hcause⟩
    cases hanswer with
    | failed way ending => exact ⟨_, ⟨_, way⟩, ending⟩
    | circular => exact absurd rfl hcause

/-- The failures of the scalars behind data types are those of the data types, circles apart. -/
theorem mem_failuresAt_faults {xs : Set DataTypeId} : failure ∈ s.failuresAt (s.faults xs) ↔
    ∃ x ∈ xs, s.Answers x (.error failure) ∧ failure.cause ≠ .recursiveTypedef := by
  simp only [← exists_faultAt_iff]
  constructor
  · rintro ⟨z, ⟨x, hx, failure', hfault⟩, ending⟩
    exact ⟨x, hx, z, hfault.1, ending⟩
  · rintro ⟨x, hx, z, hfault⟩
    exact ⟨z, ⟨x, hx, failure, hfault⟩, hfault.2⟩

theorem finite_faults (xs : Set DataTypeId) : (s.faults xs).Finite := by
  refine s.dataTypeIds.finite_toSet.subset ?_
  rintro z ⟨x, -, failure, -, ending⟩
  obtain ⟨d, hd, -⟩ := ending.exists_form
  exact mem_dataTypeIds.2 ⟨d, hd⟩

/-- Each scalar fails in one way. -/
theorem finite_failuresAt {zs : Set DataTypeId} (h : zs.Finite) : (s.failuresAt zs).Finite := by
  have hunion : s.failuresAt zs = ⋃ z ∈ zs, {failure | s.Terminal z (.error failure)} := by
    ext failure
    simp [failuresAt]
  rw [hunion]
  refine Set.Finite.biUnion h fun z _ => Set.Subsingleton.finite ?_
  intro failure hfailure failure' hfailure'
  exact Except.error.inj (hfailure.unique hfailure')

theorem isScalarFailure_iff {d : Diagnostic} (h : d.code = failure.cause.code) :
    d.isScalarFailure ↔ failure.cause ≠ .recursiveTypedef := by
  rw [Diagnostic.isScalarFailure, h]
  cases failure.cause <;> decide

/-! ## Counting what is reported -/

/-- A field is reported if its type ends at a faulty scalar. -/
theorem Closed.countP_fieldFailure (h : s.Closed) {id : FieldId} {ds : List Diagnostic}
    (hds : s.fieldFailure id = some ds) [Decidable (id ∈ s.faultyFields)] :
    ds.countP (·.isScalarFailure) = if id ∈ s.faultyFields then 1 else 0 := by
  obtain ⟨f, answer, hf, hanswer, rfl⟩ := fieldFailure_eq_some_iff.1 hds
  have hanswer := h.answer?_eq_some.1 hanswer
  have hfaulty : id ∈ s.faultyFields ↔ ∃ failure, answer = .error failure ∧
      failure.cause ≠ .recursiveTypedef := by
    constructor
    · rintro ⟨f', hf', z, failure, hfault⟩
      obtain rfl := Option.some.inj (hf.symm.trans hf')
      exact ⟨failure, hanswer.unique hfault.answers, hfault.2.cause⟩
    · rintro ⟨failure, rfl, hcause⟩
      obtain ⟨z, hfault⟩ := exists_faultAt_iff.2 ⟨hanswer, hcause⟩
      exact ⟨f, hf, z, failure, hfault⟩
  cases answer with
  | ok d => simp [hfaulty, typeFindings]
  | error failure =>
    have hcode : (Validation.typeFinding f failure).code = failure.cause.code := rfl
    simp [hfaulty, typeFindings, isScalarFailure_iff hcode, List.countP_cons]

theorem Closed.countP_fieldFailures (h : s.Closed) {ids : List FieldId}
    {found : List (List Diagnostic)} [DecidablePred (· ∈ s.faultyFields)]
    (hfound : List.Forall₂ (fun id ds => s.fieldFailure id = some ds) ids found) :
    found.flatten.countP (·.isScalarFailure) = ids.countP (· ∈ s.faultyFields) := by
  induction hfound with
  | nil => rfl
  | cons hds _ ih =>
    rw [List.flatten_cons, List.countP_append, List.countP_cons, ih, h.countP_fieldFailure hds,
      Nat.add_comm]
    simp

/-- The rules find one failure of a scalar for each field that leads to one. -/
theorem Closed.countP_findings (h : s.Closed)
    (hfindings : s.freshFindings checkLengths = some findings) :
    findings.countP (·.isScalarFailure) = s.faultyFields.ncard := by
  classical
  obtain ⟨found, hfound, hfilter⟩ := filter_freshFindings hfindings
  have hset : s.faultyFields = {id | id ∈ s.fieldIds ∧ decide (id ∈ s.faultyFields)} := by
    ext id
    simp only [Set.mem_ofPred_eq, decide_eq_true_eq]
    refine ⟨fun hid => ⟨?_, hid⟩, fun hid => hid.2⟩
    obtain ⟨f, hf, -⟩ := hid
    exact mem_fieldIds.2 ⟨f, hf⟩
  rw [hset, ncard_mem_and s.fieldIds_nodup, ← h.countP_fieldFailures (forall₂_of_mapM hfound),
    ← hfilter, List.countP_filter]
  refine List.countP_congr fun d _ => ?_
  simpa using Diagnostic.isFailure_of_isScalarFailure

theorem Closed.mem_failuresAt_fieldFaults (h : s.Closed)
    (hfindings : s.freshFindings checkLengths = some findings)
    (hcause : failure.cause ≠ .recursiveTypedef) : failure ∈ s.failuresAt s.fieldFaults ↔
      failure.toDiagnostic.failureKey ∈ findings.map (·.failureKey) := by
  rw [failureKey_mem_findings hfindings, fieldFaults, mem_failuresAt_faults]
  constructor
  · rintro ⟨_, ⟨id, f, hf, rfl⟩, hanswer, -⟩
    exact ⟨id, f, hf, h.answer?_eq_some.2 hanswer⟩
  · rintro ⟨id, f, hf, hanswer⟩
    exact ⟨_, ⟨id, f, hf, rfl⟩, h.answer?_eq_some.1 hanswer, hcause⟩

/-- What a check adds about scalars are the ways in which those behind typedefs fail and those
behind fields do not. -/
theorem Closed.scalarFailures_added (h : s.Closed)
    (hfindings : s.freshFindings checkLengths = some findings) {extra whole : List Diagnostic}
    (hadds : s.Adds (Report.ofDiagnostics findings).diagnostics extra whole) :
    {d | d ∈ extra ∧ d.isScalarFailure} =
      Failure.toDiagnostic '' (s.failuresAt s.typedefFaults \ s.failuresAt s.fieldFaults) := by
  have hkeys := (Report.perm_ofDiagnostics findings).map (·.failureKey)
  ext d
  constructor
  · rintro ⟨hd, hscalar⟩
    obtain ⟨⟨t, td, failure, htd, hanswer, rfl⟩, hnew⟩ := (hadds.mem_iff d).1 hd
    have hcause := (isScalarFailure_iff rfl).1 hscalar
    rw [hkeys.mem_iff, ← h.mem_failuresAt_fieldFaults hfindings hcause] at hnew
    have htypedef : failure ∈ s.failuresAt s.typedefFaults :=
      mem_failuresAt_faults.2 ⟨_, ⟨t, td, htd, rfl⟩, hanswer, hcause⟩
    exact ⟨failure, ⟨htypedef, hnew⟩, rfl⟩
  · rintro ⟨failure, ⟨htypedef, hnew⟩, rfl⟩
    obtain ⟨_, ⟨t, td, htd, rfl⟩, hanswer, hcause⟩ := mem_failuresAt_faults.1 htypedef
    rw [h.mem_failuresAt_fieldFaults hfindings hcause, ← hkeys.mem_iff] at hnew
    exact ⟨(hadds.mem_iff _).2 ⟨⟨t, td, failure, htd, hanswer, rfl⟩, hnew⟩,
      (isScalarFailure_iff rfl).2 hcause⟩

theorem Closed.countP_added (h : s.Closed)
    (hfindings : s.freshFindings checkLengths = some findings) {extra whole : List Diagnostic}
    (hadds : s.Adds (Report.ofDiagnostics findings).diagnostics extra whole) :
    extra.countP (·.isScalarFailure) =
      (s.failuresAt s.typedefFaults \ s.failuresAt s.fieldFaults).ncard := by
  rw [← ncard_mem_and hadds.nodup.of_map, h.scalarFailures_added hfindings hadds,
    Set.ncard_image_of_injective _ Failure.toDiagnostic_injective]

/-- A check reports each field that leads to a faulty scalar, and each further way in which the
scalars behind typedefs fail. -/
theorem Closed.countP_wholeReport (h : s.Closed)
    (hfindings : s.freshFindings checkLengths = some findings)
    (hfailures : s.typedefFailures = some failures) :
    (wholeReport findings failures).diagnostics.countP (·.isScalarFailure) =
      s.faultyFields.ncard + (s.failuresAt s.typedefFaults \ s.failuresAt s.fieldFaults).ncard := by
  obtain ⟨extra, hadds⟩ := h.exists_adds hfailures findings
  rw [hadds.perm.countP_eq, List.countP_append, (Report.perm_ofDiagnostics findings).countP_eq,
    h.countP_findings hfindings, h.countP_added hfindings hadds]

/-! ## Counting the faulty scalars -/

theorem finite_faultyFields (s : Schema) : s.faultyFields.Finite := by
  refine s.fieldIds.finite_toSet.subset ?_
  rintro id ⟨f, hf, -⟩
  exact mem_fieldIds.2 ⟨f, hf⟩

/-- A field leads to one scalar at most. -/
theorem ncard_fieldFaults_le (s : Schema) : s.fieldFaults.ncard ≤ s.faultyFields.ncard := by
  refine ncard_le_of_partner (R := fun z id => ∃ f failure, s.field? id = some f ∧
    s.FaultAt f.dataType z failure) s.finite_faultyFields ?_ ?_
  · rintro z ⟨_, ⟨id, f, hf, rfl⟩, failure, hfault⟩
    exact ⟨id, ⟨f, hf, z, failure, hfault⟩, f, failure, hf, hfault⟩
  · rintro z - z' - id ⟨f, failure, hf, hfault⟩ ⟨f', failure', hf', hfault'⟩
    obtain rfl := Option.some.inj (hf.symm.trans hf')
    exact hfault.unique hfault'

theorem FaultsApart.ncard_le (h : s.FaultsApart) : (s.typedefFaults \ s.fieldFaults).ncard ≤
    (s.failuresAt s.typedefFaults \ s.failuresAt s.fieldFaults).ncard := by
  have hfinite : (s.failuresAt s.typedefFaults \ s.failuresAt s.fieldFaults).Finite :=
    Set.Finite.sdiff (finite_failuresAt (finite_faults _))
  refine ncard_le_of_partner (R := fun z failure => s.Terminal z (.error failure)) hfinite
    (fun z hz => ?_) fun z hz z' hz' failure => h z hz z' (.inr hz'.1) failure
  obtain ⟨⟨x, hx, failure, hfault⟩, hfield⟩ := hz
  refine ⟨failure, ⟨⟨z, ⟨x, hx, failure, hfault⟩, hfault.2⟩, ?_⟩, hfault.2⟩
  rintro ⟨z', hz', hfault'⟩
  obtain rfl := h z ⟨⟨x, hx, failure, hfault⟩, hfield⟩ z' (.inl hz') failure hfault.2 hfault'
  exact hfield hz'

/-- Where the faulty scalars are told apart, there are at most as many as failures reported. -/
theorem FaultsApart.ncard_union_le (h : s.FaultsApart) :
    (s.fieldFaults ∪ s.typedefFaults).ncard ≤ s.faultyFields.ncard +
      (s.failuresAt s.typedefFaults \ s.failuresAt s.fieldFaults).ncard := by
  calc (s.fieldFaults ∪ s.typedefFaults).ncard
      = (s.fieldFaults ∪ s.typedefFaults \ s.fieldFaults).ncard := by rw [Set.union_sdiff_self]
    _ ≤ s.fieldFaults.ncard + (s.typedefFaults \ s.fieldFaults).ncard := Set.ncard_union_le _ _
    _ ≤ _ := Nat.add_le_add s.ncard_fieldFaults_le h.ncard_le

/-! ## Two scalars behind typedefs -/

/-- In package `p` the typedefs `A` and `B` stand for scalars with the names `a` and `b`. -/
def twoScalarsCalls (a b : String) : List Draft.Call :=
  [.addPackage "p", .addTypedef (some ⟨0⟩) "A", .addTypedef (some ⟨0⟩) "B",
   .define ⟨0⟩ (.elementary { name := a }), .define ⟨1⟩ (.elementary { name := b })]

def twoScalars (a b : String) : Schema where
  names := ["p", "A", "B"].foldl NameTable.insert .empty
  packages := #[{ name := "p" }]
  classes := #[]
  fields := #[]
  typedefs := #[{ name := "A", package := some ⟨0⟩, dataType := ⟨0⟩ },
    { name := "B", package := some ⟨0⟩, dataType := ⟨1⟩ }]
  enums := #[]
  dataTypes := #[{ form := .elementary { name := a }, owner := .typedef ⟨0⟩ },
    { form := .elementary { name := b }, owner := .typedef ⟨1⟩ }]

section TwoScalars

variable {a b : String}

theorem twoScalars_wellFormed (a b : String) : (twoScalars a b).WellFormed where
  drafted := ⟨twoScalarsCalls a b, _, rfl, rfl⟩
  closed := of_decide_eq_true rfl

theorem twoScalars_terminal_zero (ha : Kind.ofName? a = none) :
    (twoScalars a b).Terminal ⟨0⟩ (.error ⟨.unmappedType, a, .absent⟩) := by
  have hd : (twoScalars a b).dataType? ⟨0⟩ =
    some { form := .elementary { name := a }, owner := .typedef ⟨0⟩ } := rfl
  have hcascade : Cascade.ofDataType (twoScalars a b) ⟨0⟩ = some (some ⟨none, none⟩) := rfl
  exact terminal_of_unmapped hd rfl hcascade ha

theorem twoScalars_terminal_one (hb : Kind.ofName? b = none) :
    (twoScalars a b).Terminal ⟨1⟩ (.error ⟨.unmappedType, b, .absent⟩) := by
  have hd : (twoScalars a b).dataType? ⟨1⟩ =
    some { form := .elementary { name := b }, owner := .typedef ⟨1⟩ } := rfl
  have hcascade : Cascade.ofDataType (twoScalars a b) ⟨1⟩ = some (some ⟨none, none⟩) := rfl
  exact terminal_of_unmapped hd rfl hcascade hb

theorem twoScalars_faultyFields (a b : String) : (twoScalars a b).faultyFields = ∅ := by
  refine Set.eq_empty_of_forall_notMem ?_
  rintro id ⟨f, hf, -⟩
  cases hf

theorem twoScalars_fieldFaults (a b : String) : (twoScalars a b).fieldFaults = ∅ := by
  refine Set.eq_empty_of_forall_notMem ?_
  rintro z ⟨_, ⟨id, f, hf, rfl⟩, -⟩
  cases hf

theorem twoScalars_typedefFaults (ha : Kind.ofName? a = none) (hb : Kind.ofName? b = none) :
    (twoScalars a b).typedefFaults = {⟨0⟩, ⟨1⟩} := by
  have hzero : (twoScalars a b).FaultAt ⟨0⟩ ⟨0⟩ _ := ⟨⟨[], .here _⟩, twoScalars_terminal_zero ha⟩
  have hone : (twoScalars a b).FaultAt ⟨1⟩ ⟨1⟩ _ := ⟨⟨[], .here _⟩, twoScalars_terminal_one hb⟩
  ext z
  constructor
  · rintro ⟨_, ⟨⟨t⟩, d, hd, rfl⟩, failure, hfault⟩
    match t with
    | 0 =>
      obtain rfl := Option.some.inj hd
      exact .inl (hfault.unique hzero)
    | 1 =>
      obtain rfl := Option.some.inj hd
      exact .inr (hfault.unique hone)
    | t + 2 => cases hd
  · rintro (rfl | rfl)
    · exact ⟨⟨0⟩, ⟨⟨0⟩, _, rfl, rfl⟩, _, hzero⟩
    · exact ⟨⟨1⟩, ⟨⟨1⟩, _, rfl, rfl⟩, _, hone⟩

theorem twoScalars_apart (ha : Kind.ofName? a = none) (hb : Kind.ofName? b = none) (hne : a ≠ b) :
    (twoScalars a b).FaultsApart := by
  have hzero := twoScalars_terminal_zero (b := b) ha
  have hone := twoScalars_terminal_one (a := a) hb
  intro z hz z' hz' failure hfault hfault'
  rw [twoScalars_fieldFaults, twoScalars_typedefFaults ha hb] at hz hz'
  rcases hz.1 with rfl | rfl <;> rcases hz'.resolve_left (Set.notMem_empty _) with rfl | rfl
  · rfl
  · have heq := (hzero.unique hfault).trans (hfault'.unique hone)
    exact absurd (congrArg Failure.name (Except.error.inj heq)) hne
  · have heq := (hzero.unique hfault').trans (hfault.unique hone)
    exact absurd (congrArg Failure.name (Except.error.inj heq)) hne
  · rfl

theorem twoScalars_failuresAt (ha : Kind.ofName? a = none) :
    (twoScalars a a).failuresAt (twoScalars a a).typedefFaults =
      {⟨.unmappedType, a, .absent⟩} := by
  have hzero := twoScalars_terminal_zero (b := a) ha
  have hone := twoScalars_terminal_one (a := a) ha
  rw [twoScalars_typedefFaults ha ha]
  ext failure
  constructor
  · rintro ⟨z, rfl | rfl, hfault⟩
    · exact Except.error.inj (hfault.unique hzero)
    · exact Except.error.inj (hfault.unique hone)
  · rintro rfl
    exact ⟨⟨0⟩, .inl rfl, hzero⟩

end TwoScalars

end Schema

namespace Run

variable {s : Schema} {checkLengths : Bool} {r : Run}

/-- **How many failures of scalars a check reports**: one for each field that leads to a faulty
scalar, and one for each cause, name and place with which a scalar behind a typedef fails and none
behind a field does. These are at least as many as there are faulty scalars behind fields and
typedefs, unless one that only typedefs lead to agrees with another one in all three. -/
theorem check_counts_faults (h : s.WellFormed) (hr : Reached s checkLengths r) :
    ∃ report r', r.check = some (report, r') ∧
      report.diagnostics.countP (·.isScalarFailure) = s.faultyFields.ncard +
        (s.failuresAt s.typedefFaults \ s.failuresAt s.fieldFaults).ncard ∧
      (s.FaultsApart → (s.fieldFaults ∪ s.typedefFaults).ncard ≤
        report.diagnostics.countP (·.isScalarFailure)) := by
  obtain ⟨findings, failures, r', hfindings, hfailures, hcheck⟩ := hr.exists_report h
  have hcount := h.closed.countP_wholeReport hfindings hfailures
  exact ⟨_, r', hcheck, hcount, fun hapart => hcount ▸ hapart.ncard_union_le⟩

/-- Two typedefs with different names behind them, neither of which is in the table. -/
theorem check_counts_faults_named : (Schema.twoScalars "bogus" "wrong").WellFormed ∧
    Reached (Schema.twoScalars "bogus" "wrong") true
      (start (Schema.twoScalars "bogus" "wrong") true) ∧
    (Schema.twoScalars "bogus" "wrong").FaultsApart ∧
    ∃ report r', (start (Schema.twoScalars "bogus" "wrong") true).check = some (report, r') ∧
      2 ≤ report.diagnostics.countP (·.isScalarFailure) := by
  have ha : Kind.ofName? "bogus" = none := by decide
  have hb : Kind.ofName? "wrong" = none := by decide
  have hr : Reached (Schema.twoScalars "bogus" "wrong") true
      (start (Schema.twoScalars "bogus" "wrong") true) := .start .empty
  have hapart := Schema.twoScalars_apart ha hb (by decide)
  obtain ⟨report, r', hcheck, -, hcount⟩ :=
    check_counts_faults (Schema.twoScalars_wellFormed "bogus" "wrong") hr
  refine ⟨Schema.twoScalars_wellFormed _ _, hr, hapart, report, r', hcheck, ?_⟩
  have hle := hcount hapart
  rwa [Schema.twoScalars_fieldFaults, Schema.twoScalars_typedefFaults ha hb, Set.empty_union,
    Set.ncard_pair (by decide)] at hle

/-- **A check may report fewer failures than there are faulty scalars.** Of two typedefs without
places that stand for scalars with the same unknown name it reports one. -/
theorem check_merges_faults : (Schema.twoScalars "bogus" "bogus").WellFormed ∧
    ∃ report r', (start (Schema.twoScalars "bogus" "bogus") true).check = some (report, r') ∧
      report.diagnostics.countP (·.isScalarFailure) = 1 ∧
      ((Schema.twoScalars "bogus" "bogus").fieldFaults ∪
        (Schema.twoScalars "bogus" "bogus").typedefFaults).ncard = 2 := by
  have ha : Kind.ofName? "bogus" = none := by decide
  have hwell := Schema.twoScalars_wellFormed "bogus" "bogus"
  have hr : Reached (Schema.twoScalars "bogus" "bogus") true
      (start (Schema.twoScalars "bogus" "bogus") true) := .start .empty
  obtain ⟨findings, failures, r', hfindings, hfailures, hcheck⟩ := hr.exists_report hwell
  refine ⟨hwell, _, r', hcheck, ?_, ?_⟩
  · have hnone : (Schema.twoScalars "bogus" "bogus").failuresAt ∅ = ∅ := by
      simp [Schema.failuresAt]
    rw [hwell.closed.countP_wholeReport hfindings hfailures, Schema.twoScalars_faultyFields,
      Schema.twoScalars_failuresAt ha, Schema.twoScalars_fieldFaults, hnone]
    simp
  · rw [Schema.twoScalars_fieldFaults, Schema.twoScalars_typedefFaults ha ha, Set.empty_union,
      Set.ncard_pair (by decide)]

end Run

end SchemaTypes
