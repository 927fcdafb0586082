/-
Fields of one class that share a name.

Each field is compared with the others of its class on its own, by a search for
the first one with its name that is not the field itself. A class lists its
fields once each and in the order of their handles. So of the fields that share
a name in a class (`Schema.sharing`) the first is reported beside the second,
every other one beside the first, and a field that shares its name with no
other one is not reported (`Schema.twins_of_validate`).
-/
import SchemaTypes.Proofs.FindingsByCode
import SchemaTypes.Proofs.Verdict
import Mathlib.Data.List.Dedup
import Mathlib.Data.List.Perm.Basic

namespace SchemaTypes

/-! ## Lists -/

section Lists

variable {α β κ : Type} {xs : List α}

/-- A list falls apart into what belongs to each of several keys. -/
theorem flatMap_filter_perm [DecidableEq κ] (key : α → κ) : ∀ {ks : List κ} {xs : List α},
    ks.Nodup → (∀ x ∈ xs, key x ∈ ks) →
      (ks.flatMap fun k => xs.filter fun x => key x = k).Perm xs
  | [], xs, _, hxs => by
    obtain rfl := List.eq_nil_iff_forall_not_mem.2 fun x hx => List.not_mem_nil (hxs x hx)
    exact .refl _
  | k :: ks, xs, hks, hxs => by
    obtain ⟨hk, hks⟩ := List.nodup_cons.1 hks
    have hothers : (ks.flatMap fun k' => xs.filter fun x => key x = k') =
        ks.flatMap fun k' => (xs.filter fun x => ¬key x = k).filter fun x => key x = k' := by
      refine List.flatMap_congr fun k' hk' => ?_
      rw [List.filter_filter]
      refine List.filter_congr fun x _ => ?_
      have hne : k' ≠ k := fun e => hk (e ▸ hk')
      by_cases hx : key x = k' <;> simp [hx, hne]
    rw [List.flatMap_cons, hothers]
    have hkeys : ∀ x ∈ xs.filter fun x => ¬key x = k, key x ∈ ks := by
      intro x hx
      obtain ⟨hx, hne⟩ := List.mem_filter.1 hx
      exact (List.mem_cons.1 (hxs x hx)).resolve_left (by simpa using hne)
    have hrest := flatMap_filter_perm key hks hkeys
    have hsplit := List.filter_append_perm (fun x => decide (key x = k)) xs
    simp only [← decide_not] at hsplit
    exact (hrest.append_left _).trans hsplit

/-- The first member of a list without repetitions that is not the one at a given place. -/
theorem find?_ne_of_nodup [DecidableEq α] (hxs : xs.Nodup) {i : Nat} {x : α}
    (hx : xs[i]? = some x) : xs.find? (· ≠ x) = xs[if i = 0 then 1 else 0]? := by
  match xs, i with
  | y :: ys, 0 =>
    obtain rfl : y = x := by simpa using hx
    obtain ⟨hy, -⟩ := List.nodup_cons.1 hxs
    cases ys with
    | nil => simp
    | cons z zs =>
      have hne : z ≠ y := fun e => hy (e ▸ List.mem_cons_self)
      simp [hne]
  | y :: ys, i + 1 =>
    obtain ⟨hy, -⟩ := List.nodup_cons.1 hxs
    have hne : y ≠ x := fun e => hy (e ▸ List.mem_of_getElem? (by simpa using hx))
    simp [hne]

theorem forall₂_flatMap {f : α → List β} {R : α → β → Prop} : ∀ {xs : List α},
    (∀ x ∈ xs, ∃ y, f x = [y] ∧ R x y) → List.Forall₂ R xs (xs.flatMap f)
  | [], _ => .nil
  | x :: xs, h => by
    obtain ⟨y, hy, hR⟩ := h x List.mem_cons_self
    rw [List.flatMap_cons, hy]
    exact .cons hR (forall₂_flatMap fun z hz => h z (List.mem_cons_of_mem x hz))

end Lists

namespace Schema

open Validation

variable {s : Schema} {id : FieldId} {f : FieldDecl} {findings : List Diagnostic}
  {checkLengths : Bool}

/-! ## Fields by class and name -/

/-- The class and the name of a field. -/
def fieldKey? (s : Schema) (id : FieldId) : Option (ClassId × String) :=
  (s.field? id).map fun f => (f.owner, f.name)

/-- The fields of a class with a name, in the order in which they are declared. -/
def sharing (s : Schema) (c : ClassId) (name : String) : List FieldId :=
  s.fieldIds.filter fun id => s.fieldKey? id = some (c, name)

/-- The classes and names that fields have, each pair once. -/
def fieldKeys (s : Schema) : List (ClassId × String) :=
  (s.fields.toList.map fun f => (f.owner, f.name)).dedup

theorem sharing_nodup (s : Schema) (c : ClassId) (name : String) : (s.sharing c name).Nodup :=
  s.fieldIds_nodup.filter _

/-- Each field is among those that share its name in its class, and no others. -/
theorem flatMap_sharing_perm (s : Schema) :
    (s.fieldKeys.flatMap fun key => s.sharing key.1 key.2).Perm s.fieldIds := by
  have hnodup : (s.fieldKeys.map some).Nodup :=
    (List.nodup_dedup _).map (Option.some_injective _)
  have hkeys : ∀ id ∈ s.fieldIds, s.fieldKey? id ∈ s.fieldKeys.map some := by
    intro id hid
    obtain ⟨f, hf⟩ := mem_fieldIds.1 hid
    have hmem : f ∈ s.fields := Array.mem_of_getElem? hf
    simpa [fieldKey?, hf, fieldKeys] using ⟨f, hmem, rfl, rfl⟩
  have hperm := flatMap_filter_perm s.fieldKey? hnodup hkeys
  rwa [List.flatMap_map] at hperm

/-! ## The search for a twin -/

/-- The search by name through fields that there are. -/
theorem firstNamed_eq_find? {name : String} {except : Option FieldId} : ∀ {fs : List FieldId},
    (∀ g ∈ fs, ∃ gd, s.field? g = some gd) → s.firstNamed name except fs =
      some (fs.find? fun g => some g ≠ except ∧ (s.field? g).map FieldDecl.name = some name)
  | [], _ => rfl
  | g :: fs, hfs => by
    obtain ⟨gd, hgd⟩ := hfs g List.mem_cons_self
    have ih : s.firstNamed name except fs = _ :=
      firstNamed_eq_find? fun g' hg' => hfs g' (List.mem_cons_of_mem g hg')
    rw [firstNamed, List.find?_cons]
    by_cases hexcept : some g = except
    · simpa [hexcept] using ih
    · by_cases hname : gd.name = name
      · simp [hexcept, hgd, hname]
      · simpa [hexcept, hgd, hname] using ih

/-- In its own class a field finds the first one that shares its name and is not the field
itself. -/
theorem WellFormed.firstNamed_eq (h : s.WellFormed) {c : ClassId} {d : ClassDecl}
    (hd : s.class? c = some d) (name : String) (id : FieldId) :
    s.firstNamed name (some id) d.fields.toList = some ((s.sharing c name).find? (· ≠ id)) := by
  have hlist : d.fields.toList =
      s.fieldIds.filter fun g => (s.field? g).map FieldDecl.owner = some c := by
    rw [h.fieldsListed c.index d hd, fieldIds, List.filter_map]
    rfl
  rw [firstNamed_eq_find? fun g hg => ?_, hlist, sharing, List.find?_filter, List.find?_filter]
  · congr 1
    refine congrArg (List.find? · s.fieldIds) (funext fun g => ?_)
    cases hg : s.field? g with
    | none => simp [fieldKey?, hg]
    | some gd =>
      by_cases hid : g = id <;> by_cases howner : gd.owner = c <;>
        simp [fieldKey?, hg, hid, howner]
  · obtain ⟨gd, hgd, -⟩ := (h.mem_fields_iff hd).1 (Array.mem_toList_iff.1 hg)
    exact ⟨gd, hgd⟩

/-! ## What is reported -/

/-- What is reported of a field for the others with its name. -/
def twinsOf (s : Schema) (id : FieldId) : List Diagnostic :=
  ((s.field? id).bind (duplicateName s id)).getD []

/-- A diagnostic says of a field that another one has its name. -/
def Beside (s : Schema) (id other : FieldId) (d : Diagnostic) : Prop :=
  ∃ f twin, s.field? id = some f ∧ s.field? other = some twin ∧ d.code = .duplicateField ∧
    d.labels = [⟨f.span, "duplicate field", true⟩, ⟨twin.span, "also declared here", false⟩]

/-- The diagnostics for the fields that share a name. A single one is not reported. Of several
each is reported once, the first one beside the second and every other one beside the first. -/
structure TwinsReported (s : Schema) (ids : List FieldId) (ds : List Diagnostic) : Prop where
  count : ds.length = if 2 ≤ ids.length then ids.length else 0
  beside : ∀ i d, ds[i]? = some d → ∃ id other, ids[i]? = some id ∧
    ids[if i = 0 then 1 else 0]? = some other ∧ s.Beside id other d

theorem field_of_mem_sharing {c : ClassId} {name : String} (hid : id ∈ s.sharing c name) :
    ∃ f, s.field? id = some f ∧ f.owner = c ∧ f.name = name := by
  simpa [sharing, fieldKey?, and_assoc] using (List.mem_filter.1 hid).2

/-- What is found of repeated names, field by field. -/
theorem twins_freshFindings (h : s.freshFindings checkLengths = some findings) :
    findings.filter (·.code == .duplicateField) = s.fieldIds.flatMap s.twinsOf := by
  obtain ⟨found, hfound, hfilter⟩ :=
    filter_freshFindings_fields .duplicateField (fun id => some (s.twinsOf id)) id (by decide)
      (fun id ds hreport => by
        obtain ⟨f, -, hf, -, -, htwins, -⟩ := filter_fieldReport hreport
        exact ⟨_, rfl, by simp [twinsOf, hf, htwins]⟩) h
  obtain rfl := Option.some.inj (List.mapM_pure.symm.trans hfound)
  rw [hfilter, List.map_id, List.flatMap_def]

namespace WellFormed

variable {c : ClassId} {name : String}

/-- What is reported of a field depends on what there is besides it under its name. -/
theorem twinsOf_eq (h : s.WellFormed) (hid : id ∈ s.sharing c name) :
    ((s.sharing c name).find? (· ≠ id) = none ∧ s.twinsOf id = []) ∨
    ∃ other d, (s.sharing c name).find? (· ≠ id) = some other ∧ s.twinsOf id = [d] ∧
      s.Beside id other d := by
  obtain ⟨f, hf, rfl, rfl⟩ := field_of_mem_sharing hid
  obtain ⟨owner, howner⟩ := h.closed.field_owner hf
  have hsearch := h.firstNamed_eq howner f.name id
  cases hfind : (s.sharing f.owner f.name).find? (· ≠ id) with
  | none =>
    rw [hfind] at hsearch
    exact .inl ⟨rfl, by simp [twinsOf, hf, duplicateName, howner, hsearch]⟩
  | some other =>
    rw [hfind] at hsearch
    obtain ⟨twin, htwin, -, -⟩ := field_of_mem_sharing (List.mem_of_find?_eq_some hfind)
    exact .inr ⟨other, _, rfl,
      by simp [twinsOf, hf, duplicateName, howner, hsearch, htwin]; rfl,
      f, twin, hf, htwin, rfl, rfl⟩

theorem twinsReported (h : s.WellFormed) (c : ClassId) (name : String) :
    s.TwinsReported (s.sharing c name) ((s.sharing c name).flatMap s.twinsOf) := by
  -- Where a field stands among those that share its name decides what else is found.
  have hfind : ∀ {i : Nat} {id : FieldId}, (s.sharing c name)[i]? = some id →
      (s.sharing c name).find? (· ≠ id) = (s.sharing c name)[if i = 0 then 1 else 0]? :=
    find?_ne_of_nodup (s.sharing_nodup c name)
  by_cases hlen : 2 ≤ (s.sharing c name).length
  · have hall : List.Forall₂ (fun id d => ∃ other,
        (s.sharing c name).find? (· ≠ id) = some other ∧ s.Beside id other d)
        (s.sharing c name) ((s.sharing c name).flatMap s.twinsOf) := by
      refine forall₂_flatMap fun id hid => ?_
      obtain ⟨i, hi⟩ := List.mem_iff_getElem?.1 hid
      rcases h.twinsOf_eq hid with ⟨hnone, -⟩ | ⟨other, d, hsome, htwins, hbeside⟩
      · rw [hfind hi, List.getElem?_eq_none_iff] at hnone
        split at hnone <;> omega
      · exact ⟨d, htwins, other, hsome, hbeside⟩
    refine ⟨by rw [if_pos hlen, hall.length_eq], fun i d hd => ?_⟩
    obtain ⟨hi, rfl⟩ := List.getElem?_eq_some_iff.1 hd
    have hi' : i < (s.sharing c name).length := hall.length_eq ▸ hi
    obtain ⟨other, hother, hbeside⟩ := hall.get hi' hi
    have hid : (s.sharing c name)[i]? = some (s.sharing c name)[i] := List.getElem?_eq_getElem hi'
    exact ⟨_, other, hid, (hfind hid).symm.trans hother, hbeside⟩
  · have hnone : (s.sharing c name).flatMap s.twinsOf = [] := by
      rw [List.flatMap_eq_nil_iff]
      intro id hid
      obtain ⟨i, hi⟩ := List.mem_iff_getElem?.1 hid
      rcases h.twinsOf_eq hid with ⟨-, htwins⟩ | ⟨other, d, hsome, -⟩
      · exact htwins
      · obtain ⟨hlt, -⟩ := List.getElem?_eq_some_iff.1 hi
        rw [hfind hi] at hsome
        obtain ⟨hlt', -⟩ := List.getElem?_eq_some_iff.1 hsome
        split at hlt' <;> omega
    exact ⟨by simp [hnone, hlen], by simp [hnone]⟩

end WellFormed

/-- **How often a repeated name is reported.** The diagnostics of a validation for repeated names
of fields fall apart by classes and names. Of the fields that share one in a class, two at least,
each is reported once, the first one beside the second and every other one beside the first. -/
theorem twins_of_validate (h : s.WellFormed) {m : Memo}
    {calls : List (DataTypeId × Except Failure Descriptor)} (hm : Memo.Reached s calls m)
    (checkLengths : Bool) : ∃ report m', ∃ found : ClassId → String → List Diagnostic,
      s.validate checkLengths m = some (report, m') ∧
      (report.diagnostics.filter (·.code == .duplicateField)).Perm
        (s.fieldKeys.flatMap fun key => found key.1 key.2) ∧
      ∀ c name, s.TwinsReported (s.sharing c name) (found c name) := by
  obtain ⟨findings, m', hfindings, hvalidate⟩ := h.exists_validate hm checkLengths
  refine ⟨_, m', fun c name => (s.sharing c name).flatMap s.twinsOf, hvalidate, ?_,
    h.twinsReported⟩
  calc (Report.ofDiagnostics findings).diagnostics.filter (·.code == .duplicateField)
    _ |>.Perm (findings.filter (·.code == .duplicateField)) :=
      (Report.perm_ofDiagnostics findings).filter _
    _ = s.fieldIds.flatMap s.twinsOf := twins_freshFindings hfindings
    _ |>.Perm ((s.fieldKeys.flatMap fun key => s.sharing key.1 key.2).flatMap s.twinsOf) :=
      s.flatMap_sharing_perm.symm.flatMap_right _
    _ = _ := List.flatMap_assoc

/-! ## A name three times in one class -/

/-- In package `p` the class `B` extends `A`; `A` has a field `id` and `B` three of them, with
another field among them. -/
def repeatedCalls : List Draft.Call :=
  [.addPackage "p", .addClass (some ⟨0⟩) "A", .addClass (some ⟨0⟩) "B", .setParent ⟨1⟩ ⟨0⟩,
   .addField ⟨0⟩ "id" (.object ⟨0⟩), .addField ⟨1⟩ "id" (.object ⟨0⟩),
   .addField ⟨1⟩ "x" (.object ⟨0⟩), .addField ⟨1⟩ "id" (.object ⟨0⟩),
   .addField ⟨1⟩ "id" (.object ⟨0⟩)]

def repeated : Schema where
  names := ["p", "A", "B", "id", "x"].foldl NameTable.insert .empty
  packages := #[{ name := "p" }]
  classes := #[{ name := "A", package := some ⟨0⟩, fields := #[⟨0⟩] },
    { name := "B", package := some ⟨0⟩, parent := some ⟨0⟩, fields := #[⟨1⟩, ⟨2⟩, ⟨3⟩, ⟨4⟩] }]
  fields := #[{ name := "id", owner := ⟨0⟩, dataType := ⟨0⟩ },
    { name := "id", owner := ⟨1⟩, dataType := ⟨1⟩ },
    { name := "x", owner := ⟨1⟩, dataType := ⟨2⟩ },
    { name := "id", owner := ⟨1⟩, dataType := ⟨3⟩ },
    { name := "id", owner := ⟨1⟩, dataType := ⟨4⟩ }]
  typedefs := #[]
  enums := #[]
  dataTypes := Array.ofFn fun i : Fin 5 =>
    { form := .object ⟨0⟩, owner := .field ⟨i⟩ }

theorem repeated_wellFormed : repeated.WellFormed where
  drafted := ⟨repeatedCalls, _, rfl, rfl⟩
  closed := by decide

/-- Of the fields `id` the three in `B` are reported, and the one in `A` is not. -/
theorem twins_of_validate_repeated : repeated.WellFormed ∧ Memo.Reached repeated [] .empty ∧
    ∃ report m', ∃ found : ClassId → String → List Diagnostic,
      repeated.validate true .empty = some (report, m') ∧
      (report.diagnostics.filter (·.code == .duplicateField)).Perm
        (repeated.fieldKeys.flatMap fun key => found key.1 key.2) ∧
      (found ⟨1⟩ "id").length = 3 ∧ found ⟨0⟩ "id" = [] := by
  obtain ⟨report, m', found, hvalidate, hperm, htwins⟩ :=
    twins_of_validate repeated_wellFormed .start true
  refine ⟨repeated_wellFormed, .start, report, m', found, hvalidate, hperm,
    (htwins ⟨1⟩ "id").count, List.eq_nil_of_length_eq_zero (htwins ⟨0⟩ "id").count⟩

end Schema

end SchemaTypes
