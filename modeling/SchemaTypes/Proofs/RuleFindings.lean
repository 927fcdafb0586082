/-
What each rule of the validation demands, and that its findings tell whether
a declaration meets it.

`Tells good ds` is the contract of a rule: the list is empty if the demand
`good` is met, and what it holds otherwise are errors. Rules that look at a
class further up or at other fields are `none` only for handles that dangle,
so in a closed schema each of them has a list that tells.
-/
import SchemaTypes.Proofs.Ancestry
import SchemaTypes.Proofs.FreshCheck

namespace SchemaTypes

/-! ## Findings that tell -/

/-- The findings are empty if `good` holds, and otherwise errors. -/
structure Tells (good : Prop) (ds : List Diagnostic) : Prop where
  eq_nil_iff : ds = [] ↔ good
  isError : ∀ d ∈ ds, d.isError

namespace Tells

variable {p q : Prop} {ds es : List Diagnostic}

theorem nil (h : p) : Tells p [] :=
  ⟨by simp [h], by simp⟩

theorem single (h : ¬p) {d : Diagnostic} (hd : d.isError) : Tells p [d] :=
  ⟨by simp [h], by simpa using hd⟩

theorem congr (hpq : p ↔ q) (h : Tells p ds) : Tells q ds :=
  ⟨h.eq_nil_iff.trans hpq, h.isError⟩

theorem append (h : Tells p ds) (h' : Tells q es) : Tells (p ∧ q) (ds ++ es) := by
  refine ⟨by rw [List.append_eq_nil_iff, h.eq_nil_iff, h'.eq_nil_iff], fun d hd => ?_⟩
  rcases List.mem_append.1 hd with hd | hd
  · exact h.isError d hd
  · exact h'.isError d hd

theorem flatMap {α : Type} {xs : List α} {good : α → Prop} {f : α → List Diagnostic}
    (h : ∀ x, Tells (good x) (f x)) : Tells (∀ x ∈ xs, good x) (xs.flatMap f) := by
  refine ⟨?_, fun d hd => ?_⟩
  · rw [List.flatMap_eq_nil_iff]
    exact forall₂_congr fun x _ => (h x).eq_nil_iff
  · obtain ⟨x, -, hx⟩ := List.mem_flatMap.1 hd
    exact (h x).isError d hx

/-- If a rule tells of each of several declarations, its findings for all tell of all. -/
theorem mapM {α : Type} {good : α → Prop} {f : α → Option (List Diagnostic)} :
    ∀ {xs : List α}, (∀ x ∈ xs, ∃ ds, f x = some ds ∧ Tells (good x) ds) →
      ∃ found, xs.mapM f = some found ∧ Tells (∀ x ∈ xs, good x) found.flatten
  | [], _ => ⟨[], rfl, .nil (by simp)⟩
  | x :: xs, h => by
    obtain ⟨ds, hds, htells⟩ := h x List.mem_cons_self
    obtain ⟨found, hfound, hrest⟩ := mapM fun y hy => h y (List.mem_cons_of_mem x hy)
    refine ⟨ds :: found, by simp [hds, hfound], ?_⟩
    exact (htells.append hrest).congr List.forall_mem_cons.symm

end Tells

/-! ## Lengths -/

/-- The lengths and decimals that a rule allows. -/
def LengthRule.Allows (e : Elementary) : LengthRule → Prop
  | .exempt => True
  | .fractionalSeconds => e.length ≤ 3
  | .numberMantissa => 1 ≤ e.length ∧ e.length ≤ 9
  | .decimalMantissa => 1 ≤ e.length ∧ e.length ≤ 18 ∧ e.decimals ≤ e.length
  | .size => 1 ≤ e.length ∧ e.length ≤ 2 ^ 30

/-- The lengths and decimals that an elementary type may have: up to 3 digits for the fraction of
a second, 1 to 9 for a number, 1 to 18 for a decimal, of which at most all follow the point, and
1 to 2^30 characters or bytes for raw data and texts. Nothing is asked of the other kinds. -/
def Kind.AllowsLength (e : Elementary) : Kind → Prop
  | .timestamp => e.length ≤ 3
  | .number => 1 ≤ e.length ∧ e.length ≤ 9
  | .decimal => 1 ≤ e.length ∧ e.length ≤ 18 ∧ e.decimals ≤ e.length
  | .raw | .uppercase | .lowercase | .ascii | .unicode | .string =>
    1 ≤ e.length ∧ e.length ≤ 2 ^ 30
  | .boolean | .int | .long | .float | .double | .byte | .short | .char | .day | .enum => True

/-- Each kind has the rule that says its bounds. -/
theorem Kind.lengthRule_allows_iff (e : Elementary) (k : Kind) :
    k.lengthRule.Allows e ↔ k.AllowsLength e := by
  cases k <;> exact Iff.rfl

namespace Validation

theorem lengthFaults_tells (e : Elementary) (span : Span) (rule : LengthRule) :
    Tells (rule.Allows e) (lengthFaults e span rule) := by
  -- One check each, apart from the two of a decimal number.
  have check : ∀ {p : Prop} [Decidable p] (d : Diagnostic), d.isError →
      Tells (¬p) (if p then [d] else []) := by
    intro p _ d hd
    split
    · exact .single (not_not_intro ‹p›) hd
    · exact .nil ‹¬p›
  cases rule with
  | exempt => exact .nil trivial
  | fractionalSeconds => exact (check _ rfl).congr Nat.not_lt
  | numberMantissa | size =>
    refine (check _ rfl).congr ?_
    simp only [LengthRule.Allows, largestSize]
    omega
  | decimalMantissa =>
    refine ((check _ rfl).append (check _ rfl)).congr ?_
    simp only [LengthRule.Allows]
    omega

theorem dataTypeLength_tells (d : DataType) :
    Tells (∀ e k, d.form = .elementary e → e.HasKind k → k.AllowsLength e)
      (dataTypeLength d) := by
  simp only [← Elementary.kind?_eq_some_iff, ← Kind.lengthRule_allows_iff]
  unfold dataTypeLength
  split
  · next e he =>
    rw [Spelling.ofName?_canonical]
    split
    · next k hk =>
      refine (lengthFaults_tells e d.span k.lengthRule).congr ⟨fun hall e' k' he' hk' => ?_, ?_⟩
      · obtain rfl := TypeForm.elementary.inj (he.symm.trans he')
        obtain rfl := Option.some.inj (hk.symm.trans hk')
        exact hall
      · exact fun hall => hall e k he hk
    · next hk =>
      refine .nil fun e' k he' hk' => ?_
      obtain rfl := TypeForm.elementary.inj (he.symm.trans he')
      cases hk.symm.trans hk'
  · next hform => exact .nil fun e _ he => (hform e he).elim

/-! ## Names of classes and fields, final parents -/

theorem classNaming_tells (c : ClassDecl) :
    Tells (Text.startsUppercase c.name) (classNaming c) := by
  unfold classNaming
  split
  · exact .nil ‹_›
  · exact .single ‹_› rfl

theorem fieldNaming_tells (f : FieldDecl) :
    Tells (Text.startsLowercase f.name) (fieldNaming f) := by
  unfold fieldNaming
  split
  · exact .nil ‹_›
  · exact .single ‹_› rfl

variable {s : Schema}

theorem finalParent_tells (h : s.Closed) {id : ClassId} {c : ClassDecl}
    (hc : s.class? id = some c) : ∃ ds, finalParent s c = some ds ∧
      Tells (∀ p d, c.parent = some p → s.class? p = some d → d.isFinal = false) ds := by
  cases hp : c.parent with
  | none => exact ⟨[], by simp [finalParent, hp], .nil (by simp)⟩
  | some p =>
    obtain ⟨d, hd⟩ := h.class_parent hc hp
    obtain ⟨name, hname⟩ := h.className hd
    simp only [finalParent, hp, hd, hname, Option.bind_eq_bind, Option.bind_some]
    split
    · next hfinal =>
      refine ⟨_, rfl, .single (fun hall => ?_) rfl⟩
      simp [hall p d rfl hd] at hfinal
    · next hfinal =>
      refine ⟨[], rfl, .nil fun p' d' hp' hd' => ?_⟩
      obtain rfl := Option.some.inj hp'
      obtain rfl := Option.some.inj (hd.symm.trans hd')
      simpa using hfinal

end Validation

/-! ## Names beside other names -/

namespace Schema

/-- No field of a class has the name, an excepted field aside. -/
def FreeIn (s : Schema) (except : Option FieldId) (name : String) (c : ClassId) : Prop :=
  ∀ g gd, s.field? g = some gd → gd.owner = c → gd.name = name → some g = except

variable {s : Schema} {name : String} {except : Option FieldId}

/-- A search by name comes to a field with the name or excludes that there is one. -/
theorem firstNamed_cases : ∀ {fs : List FieldId}, (∀ g ∈ fs, ∃ gd, s.field? g = some gd) →
    (s.firstNamed name except fs = some none ∧
      ∀ g ∈ fs, ∀ gd, s.field? g = some gd → gd.name = name → some g = except) ∨
    ∃ g ∈ fs, ∃ gd, s.firstNamed name except fs = some (some g) ∧ s.field? g = some gd ∧
      gd.name = name ∧ some g ≠ except
  | [], _ => .inl ⟨rfl, by simp⟩
  | f :: fs, hfs => by
    obtain ⟨fd, hfd⟩ := hfs f List.mem_cons_self
    have ih := firstNamed_cases fun g hg => hfs g (List.mem_cons_of_mem f hg)
    rw [firstNamed]
    -- Unless `f` itself is found, the search and what it says are those for the rest.
    have rest : (fd.name = name → some f = except) →
        (s.firstNamed name except fs = some none ∧
          ∀ g ∈ f :: fs, ∀ gd, s.field? g = some gd → gd.name = name → some g = except) ∨
        ∃ g ∈ f :: fs, ∃ gd, s.firstNamed name except fs = some (some g) ∧
          s.field? g = some gd ∧ gd.name = name ∧ some g ≠ except := by
      intro hf
      rcases ih with ⟨hnone, hall⟩ | ⟨g, hg, gd, hsome, hgd, hname, hne⟩
      · refine .inl ⟨hnone, List.forall_mem_cons.2 ⟨fun gd hgd hname => hf ?_, hall⟩⟩
        rw [Option.some.inj (hfd.symm.trans hgd), hname]
      · exact .inr ⟨g, List.mem_cons_of_mem f hg, gd, hsome, hgd, hname, hne⟩
    split
    · next hexcept => exact rest fun _ => hexcept
    · next hexcept =>
      simp only [hfd, Option.bind_eq_bind, Option.bind_some]
      split
      · next hname => exact .inr ⟨f, List.mem_cons_self, fd, rfl, hfd, hname, hexcept⟩
      · next hname => exact rest fun h => absurd h hname

theorem WellFormed.firstNamed_cases (h : s.WellFormed) {c : ClassId} {d : ClassDecl}
    (hd : s.class? c = some d) (name : String) (except : Option FieldId) :
    (s.firstNamed name except d.fields.toList = some none ∧ s.FreeIn except name c) ∨
    ∃ g gd, s.firstNamed name except d.fields.toList = some (some g) ∧ s.field? g = some gd ∧
      ¬s.FreeIn except name c := by
  have hmem : ∀ {g}, g ∈ d.fields.toList ↔ ∃ gd, s.field? g = some gd ∧ gd.owner = c := by
    intro g
    rw [Array.mem_toList_iff, h.mem_fields_iff hd]
  have hfields : ∀ g ∈ d.fields.toList, ∃ gd, s.field? g = some gd := by
    intro g hg
    obtain ⟨gd, hgd, -⟩ := hmem.1 hg
    exact ⟨gd, hgd⟩
  rcases Schema.firstNamed_cases hfields with ⟨hnone, hall⟩ | ⟨g, hg, gd, hsome, hgd, hname, hne⟩
  · exact .inl ⟨hnone, fun g gd hgd howner => hall g (hmem.2 ⟨gd, hgd, howner⟩) gd hgd⟩
  · obtain ⟨gd', hgd', howner⟩ := hmem.1 hg
    obtain rfl := Option.some.inj (hgd.symm.trans hgd')
    exact .inr ⟨g, gd, hsome, hgd, fun hfree => hne (hfree g gd hgd howner hname)⟩

end Schema

namespace Validation

variable {s : Schema} {id : FieldId} {f : FieldDecl}

theorem duplicateName_tells (h : s.WellFormed) (hf : s.field? id = some f) :
    ∃ ds, duplicateName s id f = some ds ∧ Tells (s.FreeIn (some id) f.name f.owner) ds := by
  obtain ⟨owner, howner⟩ := h.closed.field_owner hf
  rcases h.firstNamed_cases howner f.name (some id) with
    ⟨hnone, hfree⟩ | ⟨g, gd, hsome, hgd, hfree⟩
  · exact ⟨[], by simp [duplicateName, howner, hnone], .nil hfree⟩
  · exact ⟨_, by simp [duplicateName, howner, hsome, hgd]; rfl, .single hfree rfl⟩

theorem shadowedIn_tells (h : s.WellFormed) (id : FieldId) (f : FieldDecl) {a : ClassId}
    (ha : a ∈ s.classIds) :
    ∃ ds, shadowedIn s id f a = some ds ∧ Tells (s.FreeIn (some id) f.name a) ds := by
  obtain ⟨owner, howner⟩ := Schema.mem_classIds.1 ha
  obtain ⟨text, htext⟩ := h.closed.className howner
  rcases h.firstNamed_cases howner f.name (some id) with
    ⟨hnone, hfree⟩ | ⟨g, gd, hsome, hgd, hfree⟩
  · exact ⟨[], by simp [shadowedIn, howner, hnone], .nil hfree⟩
  · exact ⟨_, by simp [shadowedIn, howner, hsome, htext, hgd]; rfl, .single hfree rfl⟩

theorem shadowing_tells (h : s.WellFormed) (hf : s.field? id = some f) :
    ∃ ds, shadowing s id f = some ds ∧
      Tells (∀ a, s.Extends f.owner a → s.FreeIn (some id) f.name a) ds := by
  have howner := Schema.mem_classIds.2 (h.closed.field_owner hf)
  obtain ⟨ancestors, hancestors, hmem⟩ := h.closed.superclasses howner
  obtain ⟨found, hfound, htells⟩ := Tells.mapM fun a ha =>
    shadowedIn_tells h id f (h.closed.mem_classIds_of_extends ((hmem a).1 ha))
  refine ⟨found.flatten, by simp [shadowing, hancestors, hfound], htells.congr ?_⟩
  exact forall_congr' fun a => by rw [hmem]

/-! ## Markers -/

/-- A marker stands neither at a field of a typedef nor, as `optional`, at a type in its lower
case spelling. -/
structure MarkerFits (s : Schema) (f : FieldDecl) : Prop where
  typedef : ∀ d t, s.dataType? f.dataType = some d → d.form = .alias t → f.required = none
  spelling : ∀ d e, s.dataType? f.dataType = some d → d.form = .elementary e →
    f.required = some .optional → ¬Text.startsLowercase e.name

theorem markerFits_iff {d : DataType} (hd : s.dataType? f.dataType = some d) :
    MarkerFits s f ↔ (∀ t, d.form = .alias t → f.required = none) ∧
      ∀ e, d.form = .elementary e → f.required = some .optional →
        ¬Text.startsLowercase e.name := by
  constructor
  · exact fun h => ⟨fun t => h.typedef d t hd, fun e => h.spelling d e hd⟩
  · rintro ⟨htypedef, hspelling⟩
    refine ⟨fun d' t hd' => ?_, fun d' e hd' => ?_⟩
    · obtain rfl := Option.some.inj (hd.symm.trans hd')
      exact htypedef t
    · obtain rfl := Option.some.inj (hd.symm.trans hd')
      exact hspelling e

theorem fieldMarker_tells (h : s.Closed) (hf : s.field? id = some f) :
    ∃ ds, fieldMarker s f = some ds ∧ Tells (MarkerFits s f) ds := by
  obtain ⟨d, hd⟩ := h.field_dataType hf
  rw [markerFits_iff hd]
  cases hmarker : f.required with
  | none => exact ⟨[], by simp [fieldMarker, hmarker], .nil (by simp)⟩
  | some marker =>
    match hform : d.form with
    | .object _ => exact ⟨[], by simp [fieldMarker, hmarker, hd, hform], .nil (by simp)⟩
    | .alias t =>
      obtain ⟨td, htd⟩ := h.alias_typedef hd hform
      obtain ⟨name, hname⟩ := h.typedefName htd
      exact ⟨_, by simp [fieldMarker, hmarker, hd, hform, hname]; rfl, .single (by simp) rfl⟩
    | .elementary e =>
      by_cases hclash : marker = .optional ∧ Text.startsLowercase e.name
      · exact ⟨_, by simp [fieldMarker, hmarker, hd, hform, hclash]; rfl,
          .single (by simp [hclash]) rfl⟩
      · refine ⟨[], ?_, .nil (by simpa using hclash)⟩
        simp only [fieldMarker, hmarker, hd, hform, Option.bind_eq_bind, Option.bind_some]
        rw [if_neg hclash]
        rfl

/-! ## Types -/

/-- The typedefs behind a data type come to an end, at a class or at an elementary type that is
resolvable. -/
inductive EndsWell (s : Schema) (id : DataTypeId) : Prop
  | object {xs : List DataTypeId} {z : DataTypeId} {d : DataType} {c : ClassId}
    (way : Path s.aliased? id xs z) (hd : s.dataType? z = some d) (hform : d.form = .object c)
  | elementary {xs : List DataTypeId} {z : DataTypeId} {d : DataType} {e : Elementary}
    (way : Path s.aliased? id xs z) (hd : s.dataType? z = some d)
    (hform : d.form = .elementary e) (resolvable : s.Resolvable z e)

theorem endsWell_iff (h : s.Closed) {x : DataTypeId} {answer : Except Failure Descriptor}
    (hanswer : s.Answers x answer) : EndsWell s x ↔ ∃ d, answer = .ok d := by
  constructor
  · rintro (⟨way, hd, hform⟩ | ⟨way, hd, hform, hresolvable⟩)
    · exact ⟨_, hanswer.unique (.resolved way (.object hd hform))⟩
    · rcases h.elementaryTarget hd hform with ⟨-, target, htarget⟩ | ⟨hnot, -⟩
      · exact ⟨_, hanswer.unique (.resolved way (.elementary hd hform htarget))⟩
      · exact absurd hresolvable hnot
  · rintro ⟨d, rfl⟩
    cases hanswer with
    | resolved way ending =>
      cases ending with
      | object hd hform => exact .object way hd hform
      | elementary hd hform htarget =>
        rcases h.elementaryTarget hd hform with ⟨hresolvable, -⟩ | ⟨-, cause, hfails⟩
        · exact .elementary way hd hform hresolvable
        · rw [htarget] at hfails
          simp at hfails

theorem exists_answer? (h : s.Closed) {x : DataTypeId} (hx : ∃ d, s.dataType? x = some d) :
    ∃ answer, s.answer? x = some answer ∧ (EndsWell s x ↔ ∃ d, answer = .ok d) := by
  obtain ⟨answer, hanswer⟩ := h.exists_answer (Schema.mem_dataTypeIds.2 hx)
  exact ⟨answer, h.answer?_eq_some.2 hanswer, endsWell_iff h hanswer⟩

theorem typedefFailure_tells (h : s.Closed) {t : TypedefId} {d : TypedefDecl}
    (hd : s.typedef? t = some d) :
    ∃ ds, s.typedefFailure t = some ds ∧ Tells (EndsWell s d.dataType) ds := by
  obtain ⟨answer, hanswer, hends⟩ := exists_answer? h (h.typedef_dataType hd)
  cases answer with
  | ok descriptor =>
    exact ⟨[], by simp [Schema.typedefFailure, hd, hanswer], .nil (hends.2 ⟨_, rfl⟩)⟩
  | error failure =>
    refine ⟨_, by simp [Schema.typedefFailure, hd, hanswer]; rfl, .single (fun hgood => ?_) rfl⟩
    simpa using hends.1 hgood

/-! ## All of a field -/

/-- What is demanded of a field. -/
structure FieldGood (s : Schema) (id : FieldId) (f : FieldDecl) : Prop where
  name : Text.startsLowercase f.name
  distinct : s.FreeIn (some id) f.name f.owner
  unshadowed : ∀ a, s.Extends f.owner a → s.FreeIn (some id) f.name a
  marker : MarkerFits s f
  type : EndsWell s f.dataType

theorem fieldReport_tells (h : s.WellFormed) (hf : s.field? id = some f) :
    ∃ ds, s.fieldReport id = some ds ∧ Tells (FieldGood s id f) ds := by
  obtain ⟨twins, htwins, htwin⟩ := duplicateName_tells h hf
  obtain ⟨above, habove, hshadow⟩ := shadowing_tells h hf
  obtain ⟨markers, hmarkers, hmarker⟩ := fieldMarker_tells h.closed hf
  obtain ⟨answer, hanswer, hends⟩ := exists_answer? h.closed (h.closed.field_dataType hf)
  have htype : Tells (EndsWell s f.dataType) (Schema.typeFindings f answer) := by
    cases answer with
    | ok descriptor => exact .nil (hends.2 ⟨_, rfl⟩)
    | error failure => exact .single (fun hgood => by simpa using hends.1 hgood) rfl
  refine ⟨_, by simp [Schema.fieldReport, fieldShape, hf, htwins, habove, hmarkers, hanswer],
    Tells.congr ?_ (((((fieldNaming_tells f).append htwin).append hshadow).append hmarker).append
      htype)⟩
  constructor
  · rintro ⟨⟨⟨⟨hname, hdistinct⟩, hunshadowed⟩, hmarker⟩, htype⟩
    exact ⟨hname, hdistinct, hunshadowed, hmarker, htype⟩
  · rintro ⟨hname, hdistinct, hunshadowed, hmarker, htype⟩
    exact ⟨⟨⟨⟨hname, hdistinct⟩, hunshadowed⟩, hmarker⟩, htype⟩

theorem classFindings_tells (h : s.Closed) {c : ClassId} {d : ClassDecl}
    (hd : s.class? c = some d) : ∃ ds, classFindings s c = some ds ∧
      Tells (Text.startsUppercase d.name ∧
        ∀ p pd, d.parent = some p → s.class? p = some pd → pd.isFinal = false) ds := by
  obtain ⟨parent, hparent, htells⟩ := finalParent_tells h hd
  exact ⟨_, by simp [classFindings, hd, hparent], (classNaming_tells d).append htells⟩

end Validation

end SchemaTypes
