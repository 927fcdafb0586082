/-
Runs over schemas that differ in their handles only.

Their tables have the same entries in another order, so the rules find the same
diagnostics in another order, and so do the typedefs' failures. Which failure is
left out, because one with its key is reported, depends on that order; but two
failures with one key are the same (`Failure.eq_of_failureKey_eq`), so it does
not show in the report.
-/
import SchemaTypes.Proofs.FreshTable
import SchemaTypes.Proofs.Renumbering
import SchemaTypes.Proofs.Verdict

namespace SchemaTypes

/-! ## Lists in another order -/

section Lists

variable {α β γ δ : Type}

theorem perm_of_mapM {f : α → Option β} {xs xs' : List α} (hperm : xs.Perm xs') :
    ∀ {ys : List β}, xs.mapM f = some ys → ∃ ys', xs'.mapM f = some ys' ∧ ys.Perm ys' := by
  induction hperm with
  | nil => exact fun h => ⟨_, h, .refl _⟩
  | cons x _ ih =>
    intro ys h
    simp only [List.mapM_cons, Option.bind_eq_bind, Option.bind_eq_some_iff] at h
    obtain ⟨y, hy, zs, hzs, hys⟩ := h
    obtain rfl := Option.some.inj hys
    obtain ⟨zs', hzs', hperm⟩ := ih hzs
    exact ⟨y :: zs', by simp [hy, hzs'], hperm.cons y⟩
  | swap x x' xs =>
    intro ys h
    simp only [List.mapM_cons, Option.bind_eq_bind, Option.bind_eq_some_iff] at h
    obtain ⟨y', hy', _, ⟨y, hy, zs, hzs, hrest⟩, hys⟩ := h
    obtain rfl := Option.some.inj hrest
    obtain rfl := Option.some.inj hys
    exact ⟨y :: y' :: zs, by simp [hy, hy', hzs], .swap y y' zs⟩
  | trans _ _ ih₁ ih₂ =>
    intro ys h
    obtain ⟨zs, hzs, hperm₁⟩ := ih₁ h
    obtain ⟨zs', hzs', hperm₂⟩ := ih₂ hzs
    exact ⟨zs', hzs', hperm₁.trans hperm₂⟩

theorem mapM_map_eq {f : α → Option β} {f' : γ → Option δ} {g : α → γ} {k : β → δ}
    (hf : ∀ x, f' (g x) = (f x).map k) :
    ∀ xs : List α, (xs.map g).mapM f' = (xs.mapM f).map (·.map k)
  | [] => rfl
  | x :: xs => by
    simp only [List.map_cons, List.mapM_cons, hf, mapM_map_eq hf xs]
    cases f x <;> cases xs.mapM f <;> rfl

theorem perm_of_mapM_map {f : α → Option β} {f' : γ → Option δ} {g : α → γ} {k : β → δ}
    {xs : List α} {xs' : List γ} {ys : List β} (hperm : (xs.map g).Perm xs')
    (hf : ∀ x, f' (g x) = (f x).map k) (h : xs.mapM f = some ys) :
    ∃ ys', xs'.mapM f' = some ys' ∧ (ys.map k).Perm ys' :=
  perm_of_mapM hperm (by rw [mapM_map_eq hf, h, Option.map_some])

theorem perm_of_mapM_same {f : α → Option β} {f' : γ → Option β} {g : α → γ} {xs : List α}
    {xs' : List γ} {ys : List β} (hperm : (xs.map g).Perm xs') (hf : ∀ x, f' (g x) = f x)
    (h : xs.mapM f = some ys) : ∃ ys', xs'.mapM f' = some ys' ∧ ys.Perm ys' := by
  simpa using perm_of_mapM_map (k := id) hperm (by simpa using hf) h

/-- All entries of a table, looked up one by one. -/
theorem mapM_getElem? (xs : Array α) :
    (List.range xs.size).mapM (fun i => xs[i]?) = some xs.toList := by
  have hmap : (List.range xs.size).map (fun i => xs[i]?) = xs.toList.map some := by
    refine List.ext_getElem? fun i => ?_
    rw [List.getElem?_map, List.getElem?_map, Array.getElem?_toList]
    by_cases hi : i < xs.size <;> simp [hi]
  calc (List.range xs.size).mapM (fun i => xs[i]?)
    _ = ((List.range xs.size).map fun i => xs[i]?).mapM id := by rw [List.mapM_map]; rfl
    _ = (xs.toList.map some).mapM id := by rw [hmap]
    _ = xs.toList.mapM some := List.mapM_map
    _ = some xs.toList := by simpa using List.mapM_pure (m := Option) (l := xs.toList) (f := id)

end Lists

/-! ## Failures in another order -/

namespace Schema

/-- Neither the order of what was seen matters to what is reported further nor that of the
rest. -/
theorem perm_unseen {seen seen' : List FailureKey} {ds ds' : List Diagnostic}
    (hseen : ∀ k, k ∈ seen ↔ k ∈ seen') (hperm : ds.Perm ds')
    (hkeys : ∀ d ∈ ds, ∀ e ∈ ds, d.failureKey = e.failureKey → d = e) :
    (unseen seen ds).Perm (unseen seen' ds') := by
  rw [List.perm_ext_iff_of_nodup (.of_map _ (nodup_keys_unseen seen ds))
    (.of_map _ (nodup_keys_unseen seen' ds'))]
  intro d
  have hkeys' : ∀ d ∈ ds', ∀ e ∈ ds', d.failureKey = e.failureKey → d = e := fun d hd e he =>
    hkeys d (hperm.mem_iff.2 hd) e (hperm.mem_iff.2 he)
  rw [mem_unseen_iff hkeys, mem_unseen_iff hkeys', hseen, hperm.mem_iff]

/-- The report has the same diagnostics if what is found and the failures come in another order. -/
theorem wholeReport_perm {findings findings' failures failures' : List Diagnostic}
    (hfindings : findings.Perm findings') (hfailures : failures.Perm failures')
    (hkeys : ∀ d ∈ failures, ∀ e ∈ failures, d.failureKey = e.failureKey → d = e) :
    (wholeReport findings failures).diagnostics.Perm
      (wholeReport findings' failures').diagnostics :=
  calc (wholeReport findings failures).diagnostics
    List.Perm _ (findings ++ unseen (findings.map (·.failureKey)) failures) :=
      perm_wholeReport findings failures
    List.Perm _ (findings' ++ unseen (findings'.map (·.failureKey)) failures') :=
      hfindings.append (perm_unseen (fun _ => (hfindings.map _).mem_iff) hfailures hkeys)
    List.Perm _ (wholeReport findings' failures').diagnostics :=
      (perm_wholeReport findings' failures').symm

end Schema

/-- A field with its descriptor, both mapped. -/
def Renumbering.entry (φ : Renumbering) (entry : FieldId × Option Descriptor) :
    FieldId × Option Descriptor :=
  (φ.field entry.1, entry.2.map (·.renumber φ))

/-- Checks of two runs report the same diagnostics, each as often, in some order. -/
def Run.ReportsAlike (r r' : Run) : Prop :=
  ∃ report next report' next', r.check = some (report, next) ∧
    r'.check = some (report', next') ∧ report.diagnostics.Perm report'.diagnostics

/-- The tables of two runs have the same fields with the same descriptors up to the handles, and
the same rows, in some order. -/
def Run.TablesAlike (φ : Renumbering) (r r' : Run) : Prop :=
  ∃ entries next entries' next' rows rows', r.resolvedFields = some (entries, next) ∧
    r'.resolvedFields = some (entries', next') ∧ (entries.map φ.entry).Perm entries' ∧
    FieldTable.rows r.schema entries = some rows ∧
    FieldTable.rows r'.schema entries' = some rows' ∧ rows.Perm rows'

namespace Renumbered

variable {φ : Renumbering} {s s' : Schema}

/-! ## Reports -/

theorem fieldReport (h : Renumbered φ s s') (hs : s.Closed) (hs' : s'.Closed) (id : FieldId) :
    s'.fieldReport (φ.field id) = s.fieldReport id := by
  simp only [Schema.fieldReport, h.field]
  cases s.field? id with
  | none => rfl
  | some f =>
    have hanswer : s'.answer? (f.renumber φ).dataType = _ := h.answer? hs hs' f.dataType
    simp only [Option.map_some, Option.bind_eq_bind, Option.bind_some, h.fieldShape, hanswer]
    rcases s.answer? f.dataType with _ | (_ | _) <;> rfl

theorem typedefFailure (h : Renumbered φ s s') (hs : s.Closed) (hs' : s'.Closed)
    (t : TypedefId) : s'.typedefFailure (φ.typedef t) = s.typedefFailure t := by
  simp only [Schema.typedefFailure, h.typedef]
  cases s.typedef? t with
  | none => rfl
  | some d =>
    have hanswer : s'.answer? (d.renumber φ).dataType = _ := h.answer? hs hs' d.dataType
    simp only [Option.map_some, Option.bind_eq_bind, Option.bind_some, hanswer]
    rcases s.answer? d.dataType with _ | (_ | _) <;> rfl

theorem perm_lengths (h : Renumbered φ s s') :
    (Validation.lengths s).Perm (Validation.lengths s') := by
  have hids (s : Schema) : s.dataTypeIds.mapM s.dataType? = some s.dataTypes.toList := by
    rw [Schema.dataTypeIds, List.mapM_map]
    exact mapM_getElem? s.dataTypes
  obtain ⟨ds, hds, hperm⟩ := perm_of_mapM_map h.perm_dataTypeIds h.dataType (hids s)
  rw [hids s'] at hds
  obtain rfl := Option.some.inj hds
  have hflat := hperm.flatMap_right Validation.dataTypeLength
  simpa [Validation.lengths, List.flatMap_map, dataTypeLength] using hflat

theorem freshFindings (h : Renumbered φ s s') (hs : s.Closed) (hs' : s'.Closed)
    {checkLengths : Bool} {findings : List Diagnostic}
    (hfindings : s.freshFindings checkLengths = some findings) :
    ∃ findings', s'.freshFindings checkLengths = some findings' ∧ findings.Perm findings' := by
  simp only [Schema.freshFindings, Option.bind_eq_bind, Option.bind_eq_some_iff] at hfindings
  obtain ⟨classes, hclasses, fields, hfields, hall⟩ := hfindings
  obtain rfl := Option.some.inj hall
  obtain ⟨classes', hclasses', hclass⟩ := perm_of_mapM_same h.perm_classIds h.classFindings hclasses
  obtain ⟨fields', hfields', hfield⟩ :=
    perm_of_mapM_same h.perm_fieldIds (h.fieldReport hs hs') hfields
  have hlengths : (if checkLengths then Validation.lengths s else []).Perm
      (if checkLengths then Validation.lengths s' else []) := by
    cases checkLengths with
    | true => exact h.perm_lengths
    | false => exact .refl _
  exact ⟨_, by simp only [Schema.freshFindings, hclasses', hfields']; rfl,
    (hclass.flatten.append hfield.flatten).append hlengths⟩

theorem typedefFailures (h : Renumbered φ s s') (hs : s.Closed) (hs' : s'.Closed)
    {failures : List Diagnostic} (hfailures : s.typedefFailures = some failures) :
    ∃ failures', s'.typedefFailures = some failures' ∧ failures.Perm failures' := by
  simp only [Schema.typedefFailures, Option.bind_eq_bind, Option.bind_eq_some_iff] at hfailures
  obtain ⟨found, hfound, hall⟩ := hfailures
  obtain rfl := Option.some.inj hall
  obtain ⟨found', hfound', hperm⟩ :=
    perm_of_mapM_same h.perm_typedefIds (h.typedefFailure hs hs') hfound
  exact ⟨_, by simp only [Schema.typedefFailures, hfound']; rfl, hperm.flatten⟩

theorem check (h : Renumbered φ s s') (hs : s.WellFormed) (hs' : s'.WellFormed)
    {checkLengths : Bool} {r r' : Run} (hr : Run.Reached s checkLengths r)
    (hr' : Run.Reached s' checkLengths r') : r.ReportsAlike r' := by
  obtain ⟨findings, failures, next, hfindings, hfailures, hcheck⟩ := hr.exists_report hs
  obtain ⟨findings', failures', next', hfindings', hfailures', hcheck'⟩ := hr'.exists_report hs'
  obtain ⟨_, heq, hfinding⟩ := h.freshFindings hs.closed hs'.closed hfindings
  obtain rfl := Option.some.inj (hfindings'.symm.trans heq)
  obtain ⟨_, heq, hfailure⟩ := h.typedefFailures hs.closed hs'.closed hfailures
  obtain rfl := Option.some.inj (hfailures'.symm.trans heq)
  have hkeys : ∀ d ∈ failures, ∀ e ∈ failures, d.failureKey = e.failureKey → d = e := by
    intro d hd e he hkey
    obtain ⟨-, -, f, -, -, rfl⟩ := (Schema.mem_typedefFailures_iff hfailures).1 hd
    obtain ⟨-, -, g, -, -, rfl⟩ := (Schema.mem_typedefFailures_iff hfailures).1 he
    rw [Failure.eq_of_failureKey_eq hkey]
  exact ⟨_, next, _, next', hcheck, hcheck', Schema.wholeReport_perm hfinding hfailure hkeys⟩

/-! ## Tables of resolved fields -/

theorem fieldEntry (h : Renumbered φ s s') (hs : s.Closed) (hs' : s'.Closed) (id : FieldId) :
    s'.fieldEntry (φ.field id) = (s.fieldEntry id).map φ.entry := by
  simp only [Schema.fieldEntry, h.field]
  cases s.field? id with
  | none => rfl
  | some f =>
    have hanswer : s'.answer? (f.renumber φ).dataType = _ := h.answer? hs hs' f.dataType
    simp only [Option.map_some, Option.bind_eq_bind, Option.bind_some, hanswer]
    rcases s.answer? f.dataType with _ | (_ | _) <;> rfl

theorem typedefText (h : Renumbered φ s s') (d : Option Descriptor) :
    FieldRow.typedefText s' (d.map (·.renumber φ)) = FieldRow.typedefText s d := by
  cases d with
  | none => rfl
  | some d =>
    cases htypedef : d.typedef with
    | none => simp [FieldRow.typedefText, Descriptor.renumber, htypedef]
    | some t => simp [FieldRow.typedefText, Descriptor.renumber, htypedef, h.typedefName]

theorem targetText (h : Renumbered φ s s') (d : Option Descriptor) :
    FieldRow.targetText s' (d.map (·.renumber φ)) = FieldRow.targetText s d := by
  cases d with
  | none => rfl
  | some d =>
    cases htarget : d.target with
    | elementary e =>
      simp only [FieldRow.targetText, Option.map_some, Descriptor.renumber, htarget,
        Target.renumber]
      rfl
    | object c =>
      simp [FieldRow.targetText, Descriptor.renumber, htarget, Target.renumber, h.className]

theorem ofField (h : Renumbered φ s s') (entry : FieldId × Option Descriptor) :
    FieldRow.ofField s' (φ.entry entry).1 (φ.entry entry).2 =
      FieldRow.ofField s entry.1 entry.2 := by
  simp only [FieldRow.ofField, Renumbering.entry, h.field, h.typedefText, h.targetText]
  cases s.field? entry.1 with
  | none => rfl
  | some f =>
    have howner : s'.className (f.renumber φ).owner = _ := h.className f.owner
    simp only [Option.map_some, Option.bind_eq_bind, Option.bind_some, howner]
    rfl

theorem rows (h : Renumbered φ s s') {entries entries' : List (FieldId × Option Descriptor)}
    (hperm : (entries.map φ.entry).Perm entries') {rows : List FieldRow}
    (hrows : FieldTable.rows s entries = some rows) :
    ∃ rows', FieldTable.rows s' entries' = some rows' ∧ rows.Perm rows' :=
  perm_of_mapM_same hperm h.ofField hrows

theorem resolvedFields (h : Renumbered φ s s') (hs : s.WellFormed) (hs' : s'.WellFormed)
    {checkLengths : Bool} {r r' : Run} (hr : Run.Reached s checkLengths r)
    (hr' : Run.Reached s' checkLengths r') : r.TablesAlike φ r' := by
  obtain ⟨next, hcall⟩ := hr.resolvedFields_eq hs.closed
  obtain ⟨next', hcall'⟩ := hr'.resolvedFields_eq hs'.closed
  obtain ⟨m, -, rfl⟩ := hr.exists_memo hs.closed
  obtain ⟨m', -, rfl⟩ := hr'.exists_memo hs'.closed
  obtain ⟨entries, rows, hentries, hrows⟩ := hs.closed.exists_table
  obtain ⟨entries', hentries', hentry⟩ :=
    perm_of_mapM_map h.perm_fieldIds (h.fieldEntry hs.closed hs'.closed) hentries
  obtain ⟨rows', hrows', hrow⟩ := h.rows hentry hrows
  refine ⟨entries, next, entries', next', rows, rows', ?_, ?_, hentry, hrows, hrows', hrow⟩
  · rw [hcall, hentries, Option.map_some]
  · rw [hcall', Schema.freshTable, hentries', Option.map_some]

end Renumbered

end SchemaTypes
