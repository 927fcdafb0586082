/-
How often a shadowed field is reported.

The walk up the `extends` links is cut after as many classes as the schema
has, so it comes to a class twice exactly where the links lead to that class
and from there back to it within that many steps
(`two_le_count_superclasses`). How many classes the schema has, and not only
those on the circle, decides it.

Each diagnostic is kept together with the field and the class further up that
it was produced for (`Shadowing`), since two of them may read the same.
-/
import SchemaTypes.Proofs.FindingsByCode
import SchemaTypes.Proofs.Verdict
import Mathlib.Data.List.NodupEquivFin

namespace SchemaTypes

namespace Schema

variable {s : Schema} {c a : ClassId}

/-! ## The walk as a sequence -/

theorem getElem?_lineage {limit : Nat} {start : Option ClassId} {found : List ClassId} {i : Nat}
    (h : s.lineage limit start = some found) : found[i]? = some a ↔
      i < limit ∧ ∃ c xs, start = some c ∧ Path s.parent? c xs a ∧ xs.length = i := by
  induction limit generalizing start found i with
  | zero =>
    obtain rfl : [] = found := by simpa [Schema.lineage] using h
    simp
  | succ limit ih =>
    cases start with
    | none =>
      obtain rfl : [] = found := by simpa [Schema.lineage] using h
      simp
    | some c =>
      simp only [Schema.lineage, Option.bind_eq_bind, Option.bind_eq_some_iff] at h
      obtain ⟨d, hd, rest, hrest, hfound⟩ := h
      obtain rfl := Option.some.inj hfound
      cases i with
      | zero =>
        constructor
        · intro h
          obtain rfl : c = a := by simpa using h
          exact ⟨Nat.succ_pos limit, c, [], rfl, .here c, rfl⟩
        · rintro ⟨-, c', xs, hc, hpath, hlen⟩
          obtain rfl := Option.some.inj hc
          obtain rfl := List.length_eq_zero_iff.1 hlen
          cases hpath
          rfl
      | succ i =>
        rw [List.getElem?_cons_succ, ih hrest, Nat.succ_lt_succ_iff]
        refine and_congr_right fun _ => ⟨?_, ?_⟩
        · rintro ⟨p, xs, hp, hpath, hlen⟩
          exact ⟨c, c :: xs, rfl, .step (parent?_eq_some.2 ⟨d, hd, hp⟩) hpath, by simp [hlen]⟩
        · rintro ⟨c', xs, hc, hpath, hlen⟩
          obtain rfl := Option.some.inj hc
          cases hpath with
          | here => cases hlen
          | step link rest =>
            obtain ⟨d', hd', hp⟩ := parent?_eq_some.1 link
            obtain rfl := Option.some.inj (hd.symm.trans hd')
            exact ⟨_, _, hp, rest, by simpa using hlen⟩

theorem getElem?_superclasses {found : List ClassId} {i : Nat}
    (h : s.superclasses c = some found) : found[i]? = some a ↔
      i < s.classes.size ∧ ∃ xs, Path s.parent? c xs a ∧ xs.length = i + 1 := by
  rw [getElem?_lineage (superclasses_eq_some_iff.1 h).2]
  refine and_congr_right fun _ => ⟨?_, ?_⟩
  · rintro ⟨p, xs, link, hpath, hlen⟩
    exact ⟨c :: xs, .step link hpath, by simp [hlen]⟩
  · rintro ⟨xs, hpath, hlen⟩
    cases hpath with
    | here => cases hlen
    | step link rest => exact ⟨_, _, link, rest, by simpa using hlen⟩

/-- The `extends` links lead from a class to another one and from that one back to itself, all
within as many steps as there are classes. -/
def Returns (s : Schema) (c a : ClassId) : Prop :=
  ∃ xs ys, Path s.parent? c xs a ∧ Path s.parent? a ys a ∧ xs ≠ [] ∧ ys ≠ [] ∧
    xs.length + ys.length ≤ s.classes.size

/-- Where the links return to a class, it lies on a circle. -/
theorem Returns.extends (h : s.Returns c a) : s.Extends a a := by
  obtain ⟨xs, ys, -, hback, -, hys, -⟩ := h
  cases hback with
  | here => exact absurd rfl hys
  | step link rest => exact ⟨_, _, link, rest⟩

/-- **When a walk comes to a class twice.** -/
theorem two_le_count_superclasses {found : List ClassId} (h : s.superclasses c = some found) :
    2 ≤ found.count a ↔ s.Returns c a := by
  rw [← List.duplicate_iff_two_le_count, List.duplicate_iff_exists_distinct_get]
  constructor
  · rintro ⟨i, j, hlt, hi, hj⟩
    have hi' : found[i.1]? = some a := by simp [hi]
    have hj' : found[j.1]? = some a := by simp [hj]
    obtain ⟨-, xs, hxs, hlen⟩ := (getElem?_superclasses h).1 hi'
    obtain ⟨hsize, ys, hys, hlen'⟩ := (getElem?_superclasses h).1 hj'
    have hlt' : i.1 < j.1 := hlt
    rcases hxs.compare hys with ⟨zs, rfl, hzs⟩ | ⟨zs, rfl, -⟩
    · rw [List.length_append] at hlen'
      refine ⟨xs, zs, hxs, hzs, ?_, ?_, by omega⟩
      · rintro rfl
        cases hlen
      · rintro rfl
        simp at hlen'
        omega
    · rw [List.length_append] at hlen
      omega
  · rintro ⟨xs, ys, hxs, hys, hne, hne', hle⟩
    have hpos := List.length_pos_iff.2 hne
    have hpos' := List.length_pos_iff.2 hne'
    have hi : found[xs.length - 1]? = some a :=
      (getElem?_superclasses h).2 ⟨by omega, xs, hxs, by omega⟩
    have hj : found[xs.length + ys.length - 1]? = some a :=
      (getElem?_superclasses h).2 ⟨by omega, xs ++ ys, hxs.append hys, by simp; omega⟩
    obtain ⟨hi, hget⟩ := List.getElem?_eq_some_iff.1 hi
    obtain ⟨hj, hget'⟩ := List.getElem?_eq_some_iff.1 hj
    exact ⟨⟨_, hi⟩, ⟨_, hj⟩, Fin.mk_lt_mk.2 (by omega), hget.symm, hget'.symm⟩

end Schema

/-! ## Diagnostics with what they were produced for -/

/-- A diagnostic for a field that occurs in a class further up. -/
structure Shadowing where
  field : FieldId
  ancestor : ClassId
  diagnostic : Diagnostic

/-- Whether it was produced for a field against a class. -/
def Shadowing.isFor (x : Shadowing) (f : FieldId) (a : ClassId) : Bool :=
  x.field = f ∧ x.ancestor = a

namespace Validation

/-- What a field shadows in one class further up. -/
def shadowingsIn (s : Schema) (id : FieldId) (f : FieldDecl) (ancestor : ClassId) :
    Option (List Shadowing) :=
  (shadowedIn s id f ancestor).map (·.map (⟨id, ancestor, ·⟩))

/-- What a field shadows in all classes further up. -/
def shadowingsOf (s : Schema) (id : FieldId) : Option (List Shadowing) := do
  let f ← s.field? id
  let ancestors ← s.superclasses f.owner
  let found ← ancestors.mapM (shadowingsIn s id f)
  pure found.flatten

end Validation

/-- All that is produced for fields that occur in classes further up. -/
def Schema.shadowings (s : Schema) : Option (List Shadowing) :=
  (s.fieldIds.mapM (Validation.shadowingsOf s)).map List.flatten

namespace Validation

variable {s : Schema} {id : FieldId} {f : FieldDecl} {a : ClassId}

/-- In one class a field shadows nothing or one field. -/
theorem shadowingsIn_cases (h : s.WellFormed) (id : FieldId) (f : FieldDecl)
    (ha : a ∈ s.classIds) :
    (s.FreeIn (some id) f.name a ∧ shadowingsIn s id f a = some []) ∨
    (¬s.FreeIn (some id) f.name a ∧ ∃ d, shadowingsIn s id f a = some [⟨id, a, d⟩]) := by
  obtain ⟨owner, howner⟩ := Schema.mem_classIds.1 ha
  obtain ⟨text, htext⟩ := h.closed.className howner
  rcases h.firstNamed_cases howner f.name (some id) with
    ⟨hnone, hfree⟩ | ⟨g, gd, hsome, hgd, hfree⟩
  · exact .inl ⟨hfree, by simp [shadowingsIn, shadowedIn, howner, hnone]⟩
  · exact .inr ⟨hfree, _, by simp [shadowingsIn, shadowedIn, howner, hsome, htext, hgd]; rfl⟩

/-- Each time the walk comes to a class, it is found there again what a field shadows in it. -/
theorem countP_shadowingsIn (h : s.WellFormed) (id : FieldId) (f : FieldDecl) :
    ∀ {above : List ClassId}, (∀ b ∈ above, b ∈ s.classIds) → ∃ found,
      above.mapM (shadowingsIn s id f) = some found ∧ ∀ a,
        (s.FreeIn (some id) f.name a → found.flatten.countP (·.isFor id a) = 0) ∧
        (¬s.FreeIn (some id) f.name a → found.flatten.countP (·.isFor id a) = above.count a)
  | [], _ => ⟨[], rfl, by simp⟩
  | b :: above, hmem => by
    have habove : ∀ b ∈ above, b ∈ s.classIds := fun b hb => hmem b (List.mem_cons_of_mem _ hb)
    obtain ⟨found, hfound, hcount⟩ := countP_shadowingsIn h id f habove
    rcases shadowingsIn_cases h id f (hmem b List.mem_cons_self) with ⟨hb, hin⟩ | ⟨hb, d, hin⟩
    · refine ⟨[] :: found, by simp [hin, hfound], fun a => ⟨by simpa using (hcount a).1, ?_⟩⟩
      intro ha
      have hne : b ≠ a := fun e => ha (e ▸ hb)
      simpa [List.count_cons, hne] using (hcount a).2 ha
    · refine ⟨[⟨id, b, d⟩] :: found, by simp [hin, hfound], fun a => ⟨fun ha => ?_, fun ha => ?_⟩⟩
      · have hne : b ≠ a := fun e => hb (e ▸ ha)
        simpa [List.countP_cons, Shadowing.isFor, hne] using (hcount a).1 ha
      · rw [List.flatten_cons, List.countP_append, (hcount a).2 ha, List.count_cons, Nat.add_comm]
        simp [Shadowing.isFor, List.countP_cons]

/-- What is produced for a field are its findings in the classes further up, and one class occurs
in it more than once only if the field shadows something there and the walk returns to it. -/
theorem shadowingsOf_spec (h : s.WellFormed) (hf : s.field? id = some f) :
    ∃ found, shadowingsOf s id = some found ∧
      shadowing s id f = some (found.map (·.diagnostic)) ∧
      ∀ a, found.countP (·.isFor id a) ≤ 1 ↔
        s.FreeIn (some id) f.name a ∨ ¬s.Returns f.owner a := by
  have howner := Schema.mem_classIds.2 (h.closed.field_owner hf)
  obtain ⟨above, habove, hmem⟩ := h.closed.superclasses howner
  obtain ⟨found, hfound, hcount⟩ := countP_shadowingsIn h id f fun b hb =>
    h.closed.mem_classIds_of_extends ((hmem b).1 hb)
  refine ⟨found.flatten, by simp [shadowingsOf, hf, habove, hfound], ?_, fun a => ?_⟩
  · have hplain : above.mapM (shadowedIn s id f) =
        some (found.map fun xs => xs.map (·.diagnostic)) := by
      refine mapM_of_imp (fun b xs hb => ?_) hfound
      obtain ⟨ds, hds, rfl⟩ := Option.map_eq_some_iff.1 hb
      simp [hds, Function.comp_def]
    simp [shadowing, habove, hplain, List.map_flatten]
  · by_cases ha : s.FreeIn (some id) f.name a
    · simp [(hcount a).1 ha, ha]
    · rw [(hcount a).2 ha, ← Schema.two_le_count_superclasses habove]
      simp only [ha, false_or, not_le]
      omega

theorem field_of_mem_shadowingsOf {found : List Shadowing} (h : shadowingsOf s id = some found) :
    ∀ x ∈ found, x.field = id := by
  simp only [shadowingsOf, Option.bind_eq_bind, Option.bind_eq_some_iff] at h
  obtain ⟨f, -, above, -, found', hfound, hflat⟩ := h
  obtain rfl := Option.some.inj hflat
  intro x hx
  obtain ⟨xs, hxs, hx⟩ := List.mem_flatten.1 hx
  obtain ⟨b, -, hb⟩ := (mem_of_mapM hfound).1 hxs
  obtain ⟨ds, -, rfl⟩ := Option.map_eq_some_iff.1 hb
  obtain ⟨d, -, rfl⟩ := List.mem_map.1 hx
  rfl

theorem countP_shadowings {own : List Shadowing} (hown : shadowingsOf s id = some own) :
    ∀ {ids : List FieldId} {found : List (List Shadowing)}, ids.Nodup → id ∈ ids →
      ids.mapM (shadowingsOf s) = some found →
      found.flatten.countP (·.isFor id a) = own.countP (·.isFor id a)
  | other :: ids, found, hnodup, hid, h => by
    simp only [List.mapM_cons, Option.bind_eq_bind, Option.bind_eq_some_iff] at h
    obtain ⟨xs, hxs, rest, hrest, hfound⟩ := h
    obtain rfl := Option.some.inj hfound
    obtain ⟨hother, hnodup⟩ := List.nodup_cons.1 hnodup
    have none_of : ∀ {ys : List Shadowing}, (∀ x ∈ ys, x.field ≠ id) →
        ys.countP (·.isFor id a) = 0 := by
      intro ys hys
      simpa [List.countP_eq_zero, Shadowing.isFor] using fun x hx he => absurd he (hys x hx)
    rw [List.flatten_cons, List.countP_append]
    by_cases he : other = id
    · subst he
      obtain rfl := Option.some.inj (hown.symm.trans hxs)
      have hrest : rest.flatten.countP (·.isFor other a) = 0 := by
        refine none_of fun x hx => ?_
        obtain ⟨ys, hys, hx⟩ := List.mem_flatten.1 hx
        obtain ⟨y, hy, hfield⟩ := (mem_of_mapM hrest).1 hys
        rw [field_of_mem_shadowingsOf hfield x hx]
        exact fun e => hother (e ▸ hy)
      rw [hrest, Nat.add_zero]
    · have hxs : xs.countP (·.isFor id a) = 0 := by
        refine none_of fun x hx => ?_
        rw [field_of_mem_shadowingsOf hxs x hx]
        exact he
      rw [hxs, Nat.zero_add]
      exact countP_shadowings hown hnodup
        ((List.mem_cons.1 hid).resolve_left fun e => he e.symm) hrest

end Validation

/-! ## What a validation reports -/

namespace Schema

open Validation

variable {s : Schema} {findings : List Diagnostic} {checkLengths : Bool}

/-- Of what is reported of a field, the shadowings are those that are produced for it. -/
theorem shadowed_fieldReport (h : s.WellFormed) {id : FieldId} {ds : List Diagnostic}
    (hreport : s.fieldReport id = some ds) : ∃ found, shadowingsOf s id = some found ∧
      ds.filter (·.code == .shadowedField) = found.map (·.diagnostic) := by
  obtain ⟨f, -, hf, -, -, -, habove, -⟩ := filter_fieldReport hreport
  obtain ⟨found, hfound, hplain, -⟩ := shadowingsOf_spec h hf
  exact ⟨found, hfound, Option.some.inj (habove.symm.trans hplain)⟩

/-- The shadowings among what the rules find. -/
theorem shadowed_freshFindings (h : s.WellFormed)
    (hfindings : s.freshFindings checkLengths = some findings) : ∃ found,
      s.shadowings = some found ∧
      findings.filter (·.code == .shadowedField) = found.map (·.diagnostic) := by
  obtain ⟨found, hfound, hfilter⟩ := filter_freshFindings_fields .shadowedField (shadowingsOf s)
    (·.diagnostic) (by decide) (fun _ _ => shadowed_fieldReport h) hfindings
  exact ⟨found.flatten, by simp [shadowings, hfound], hfilter⟩

/-- What a validation reports of shadowed fields is all that is produced for them. -/
theorem exists_shadowings (h : s.WellFormed) {m : Memo}
    {calls : List (DataTypeId × Except Failure Descriptor)} (hm : Memo.Reached s calls m)
    (checkLengths : Bool) : ∃ report m' found,
      s.validate checkLengths m = some (report, m') ∧ s.shadowings = some found ∧
      (report.diagnostics.filter (·.code == .shadowedField)).Perm (found.map (·.diagnostic)) := by
  obtain ⟨findings, m', hfindings, hvalidate⟩ := h.exists_validate hm checkLengths
  obtain ⟨found, hfound, hfilter⟩ := shadowed_freshFindings h hfindings
  refine ⟨_, m', found, hvalidate, hfound, ?_⟩
  rw [← hfilter]
  exact (Report.perm_ofDiagnostics findings).filter _

/-- **How often a shadowing is reported.** The diagnostics of a validation for shadowed fields are
those produced for a field against a class further up. There is at most one for each field and
class, unless the field shadows something there and the links to the class return to it within
as many steps as there are classes; so there never is a second one for a class on no circle. -/
theorem shadowed_once_iff (h : s.WellFormed) {m : Memo}
    {calls : List (DataTypeId × Except Failure Descriptor)} (hm : Memo.Reached s calls m)
    (checkLengths : Bool) : ∃ report m' found,
      s.validate checkLengths m = some (report, m') ∧ s.shadowings = some found ∧
      (report.diagnostics.filter (·.code == .shadowedField)).Perm (found.map (·.diagnostic)) ∧
      ∀ id f a, s.field? id = some f →
        (found.countP (·.isFor id a) ≤ 1 ↔
          s.FreeIn (some id) f.name a ∨ ¬s.Returns f.owner a) ∧
        (¬s.Extends a a → found.countP (·.isFor id a) ≤ 1) := by
  obtain ⟨report, m', found, hvalidate, hfound, hperm⟩ := exists_shadowings h hm checkLengths
  refine ⟨report, m', found, hvalidate, hfound, hperm, fun id f a hf => ?_⟩
  obtain ⟨own, hown, -, honce⟩ := shadowingsOf_spec h hf
  obtain ⟨parts, hparts, rfl⟩ := Option.map_eq_some_iff.1 hfound
  rw [countP_shadowings hown s.fieldIds_nodup (mem_fieldIds.2 ⟨f, hf⟩) hparts]
  exact ⟨honce a, fun ha => (honce a).2 (.inr fun hreturns => ha hreturns.extends)⟩

/-! ## Classes that extend each other -/

/-- In package `p` the classes `A` and `B` extend each other and `C` extends `A`; each has a
field `id`. -/
def circlingCalls : List Draft.Call :=
  [.addPackage "p", .addClass (some ⟨0⟩) "A", .addClass (some ⟨0⟩) "B",
   .addClass (some ⟨0⟩) "C", .setParent ⟨0⟩ ⟨1⟩, .setParent ⟨1⟩ ⟨0⟩, .setParent ⟨2⟩ ⟨0⟩,
   .addField ⟨0⟩ "id" (.elementary { name := "int" }),
   .addField ⟨1⟩ "id" (.elementary { name := "int" }),
   .addField ⟨2⟩ "id" (.elementary { name := "int" })]

def circling : Schema where
  names := ["p", "A", "B", "C", "id"].foldl NameTable.insert .empty
  packages := #[{ name := "p" }]
  classes := #[{ name := "A", package := some ⟨0⟩, parent := some ⟨1⟩, fields := #[⟨0⟩] },
    { name := "B", package := some ⟨0⟩, parent := some ⟨0⟩, fields := #[⟨1⟩] },
    { name := "C", package := some ⟨0⟩, parent := some ⟨0⟩, fields := #[⟨2⟩] }]
  fields := #[{ name := "id", owner := ⟨0⟩, dataType := ⟨0⟩ },
    { name := "id", owner := ⟨1⟩, dataType := ⟨1⟩ },
    { name := "id", owner := ⟨2⟩, dataType := ⟨2⟩ }]
  typedefs := #[]
  enums := #[]
  dataTypes := #[{ form := .elementary { name := "int" }, owner := .field ⟨0⟩ },
    { form := .elementary { name := "int" }, owner := .field ⟨1⟩ },
    { form := .elementary { name := "int" }, owner := .field ⟨2⟩ }]

theorem circling_wellFormed : circling.WellFormed where
  drafted := ⟨circlingCalls, _, rfl, rfl⟩
  closed := by decide

/-- From `C` the walk comes to `B` only once, since it is cut before it returns there. -/
theorem shadowed_once_iff_cut : circling.WellFormed ∧ Memo.Reached circling [] .empty ∧
    ∃ report m' found, circling.validate true .empty = some (report, m') ∧
      circling.shadowings = some found ∧ found.countP (·.isFor ⟨2⟩ ⟨1⟩) ≤ 1 := by
  obtain ⟨report, m', found, hvalidate, hfound, -, honce⟩ :=
    shadowed_once_iff circling_wellFormed .start true
  have habove : circling.superclasses ⟨2⟩ = some [⟨0⟩, ⟨1⟩, ⟨0⟩] := rfl
  have hcut : ¬circling.Returns ⟨2⟩ ⟨1⟩ := by
    rw [← two_le_count_superclasses habove]
    decide
  exact ⟨circling_wellFormed, .start, report, m', found, hvalidate, hfound,
    (honce ⟨2⟩ _ ⟨1⟩ rfl).1.2 (.inr hcut)⟩

/-- **A shadowing may be reported twice.** The class `C`, to which the links from `A` do not lead,
lets the walk from `A` come to `B` twice, and so often it is reported that `B` has a field `id`
already. -/
theorem shadowed_twice : circling.WellFormed ∧ circling.Extends ⟨0⟩ ⟨1⟩ ∧
    ¬circling.Extends ⟨0⟩ ⟨2⟩ ∧
    ∃ report m' found, circling.validate true .empty = some (report, m') ∧
      circling.shadowings = some found ∧
      (report.diagnostics.filter (·.code == .shadowedField)).Perm (found.map (·.diagnostic)) ∧
      found.countP (·.isFor ⟨0⟩ ⟨1⟩) = 2 := by
  obtain ⟨report, m', found, hvalidate, hfound, hperm⟩ :=
    exists_shadowings circling_wellFormed .start true
  have habove : circling.superclasses ⟨0⟩ = some [⟨1⟩, ⟨0⟩, ⟨1⟩] := rfl
  have hmem : ∀ a, a ∈ [⟨1⟩, ⟨0⟩, ⟨1⟩] ↔ circling.Extends ⟨0⟩ a := by
    obtain ⟨above, habove', hmem⟩ :=
      circling_wellFormed.closed.superclasses (mem_classIds.2 ⟨_, rfl⟩ : ⟨0⟩ ∈ circling.classIds)
    rwa [← Option.some.inj (habove.symm.trans habove')] at hmem
  have hcount : circling.shadowings.map (·.countP (·.isFor ⟨0⟩ ⟨1⟩)) = some 2 := by rfl
  rw [hfound] at hcount
  exact ⟨circling_wellFormed, (hmem _).1 (by decide), fun h => absurd ((hmem _).2 h) (by decide),
    report, m', found, hvalidate, hfound, hperm, Option.some.inj hcount⟩

end Schema

end SchemaTypes
