/-
Who owns a data type, and who has it.

A field gets its data type with its declaration, and each names the other from
then on. A typedef has the data type of its first definition only: a second
definition leaves a data type behind that names the typedef, to no avail. So
fields and data types always point at each other, and typedefs and data types
do until a typedef is defined twice (`Draft.Owned`). What becomes a schema has
no such typedef, and there each data type belongs to exactly one field or
typedef (`Schema.BackReferenced`).
-/
import SchemaTypes.Proofs.WellFormed
import Mathlib.Data.List.Nodup

namespace SchemaTypes

/-! ## Drafts -/

namespace Draft

/-- The declaration that a data type names as the one it is written in. -/
def ownerOf? (d : Draft) (n : DataTypeId) : Option TypeOwner :=
  d.dataTypes[n.index]?.map (·.owner)

/-- The data type that a typedef has got. -/
def definition? (d : Draft) (i : Nat) : Option DataTypeId :=
  d.typedefs[i]?.bind (·.dataType)

/-- Data types and the fields and typedefs in which they are written name each other. -/
structure Owned (d : Draft) : Prop where
  ofField : ∀ (i : Nat) n,
    d.fields[i]?.map (·.dataType) = some n ↔ d.ownerOf? n = some (.field ⟨i⟩)
  ofTypedef : ∀ i n, d.definition? i = some n → d.ownerOf? n = some (.typedef ⟨i⟩)
  /-- Unless a typedef was defined twice. -/
  toTypedef : d.redefined = none →
    ∀ i n, d.ownerOf? n = some (.typedef ⟨i⟩) → d.definition? i = some n

theorem ownerOf?_push {d d' : Draft} {x : DataType} (h : d'.dataTypes = d.dataTypes.push x)
    (n : DataTypeId) :
    d'.ownerOf? n = if n = ⟨d.dataTypes.size⟩ then some x.owner else d.ownerOf? n := by
  obtain ⟨i⟩ := n
  rw [ownerOf?, h, Array.getElem?_push]
  by_cases hi : i = d.dataTypes.size <;> simp [hi, ownerOf?]

theorem ne_size_of_ownerOf? {d : Draft} {n : DataTypeId} {o : TypeOwner}
    (h : d.ownerOf? n = some o) : n ≠ ⟨d.dataTypes.size⟩ := by
  rintro rfl
  simp [ownerOf?] at h

theorem definition?_addTypedef (d : Draft) (package : Option PackageId) (name : String) (i : Nat) :
    (d.addTypedef package name).2.definition? i = d.definition? i := by
  simp only [definition?, addTypedef, addName, Array.getElem?_push]
  split
  · next hi => simp [hi]
  · rfl

theorem definition?_setSpan (d : Draft) (node : Node) (span : Span) (i : Nat) :
    (d.setSpan node span).definition? i = d.definition? i := by
  cases node with
  | package | classDecl | field | enumDecl | dataType => rfl
  | typedef t =>
    simp only [definition?, setSpan, Array.getElem?_modify]
    split
    · cases d.typedefs[i]? <;> rfl
    · rfl

/-- What a definition does about its typedef: the first one gives it the next data type, and any
other is remembered as a fault, unless there has been one. -/
inductive Defines (d : Draft) (t : TypedefId) (d' : Draft) : Prop
  | first (fresh : d.definition? t.index = none)
    (definitions : ∀ i, d'.definition? i =
      if t.index = i then some ⟨d.dataTypes.size⟩ else d.definition? i)
    (names : ∀ i : Nat, d'.typedefs[i]?.map (·.name) = d.typedefs[i]?.map (·.name))
    (redefined : d'.redefined = d.redefined)
  | again {name : String} (declared : d.typedefs[t.index]?.map (·.name) = some name)
    (defined : (d.definition? t.index).isSome) (typedefs : d'.typedefs = d.typedefs)
    (redefined : d'.redefined = d.redefined.or (some name))

theorem defines_define {d : Draft} {t : TypedefId} (ht : d.issued (.typedef t))
    (form : TypeForm) : d.Defines t (d.define t form).2 := by
  obtain ⟨pending, hpending⟩ := Schema.lt_size_iff.1 (of_decide_eq_true ht)
  have hdefinition : d.definition? t.index = pending.dataType := by
    rw [definition?, hpending, Option.bind_some]
  simp only [define, addDataType, hpending]
  split
  · next hsome =>
    exact .again (by rw [hpending, Option.map_some]) (hdefinition ▸ hsome) rfl rfl
  · next hnone =>
    refine .first (hdefinition.trans (by simpa using hnone)) (fun i => ?_) (fun i => ?_) rfl
    · simp only [definition?, Array.getElem?_modify]
      split
      · next hi => simp [← hi, hpending]
      · rfl
    · exact map_getElem?_modify _ _ _ _ _ fun _ => rfl

namespace Owned

variable {d d' : Draft}

theorem empty : Owned .empty where
  ofField i n := by simp [Draft.empty, ownerOf?]
  ofTypedef i n h := by simp [Draft.empty, definition?] at h
  toTypedef _ i n h := by simp [Draft.empty, ownerOf?] at h

theorem congr (h : d.Owned)
    (hfields : ∀ i : Nat, d'.fields[i]?.map (·.dataType) = d.fields[i]?.map (·.dataType))
    (hdefinition : ∀ i, d'.definition? i = d.definition? i)
    (howners : ∀ n, d'.ownerOf? n = d.ownerOf? n) (hredefined : d'.redefined = d.redefined) :
    d'.Owned where
  ofField i n := by rw [hfields, howners, h.ofField]
  ofTypedef i n := by
    rw [hdefinition, howners]
    exact h.ofTypedef i n
  toTypedef := by
    intro hnone i n
    rw [hdefinition, howners]
    exact h.toTypedef (hredefined ▸ hnone) i n

theorem addField (h : d.Owned) (owner : ClassId) (name : String) (form : TypeForm) :
    (d.addField owner name form).2.Owned := by
  have hpushed : (d.addField owner name form).2.dataTypes =
      d.dataTypes.push { form, owner := .field ⟨d.fields.size⟩ } := rfl
  have hfield (i : Nat) : (d.addField owner name form).2.fields[i]?.map (·.dataType) =
      if i = d.fields.size then some ⟨d.dataTypes.size⟩ else d.fields[i]?.map (·.dataType) := by
    simp only [Draft.addField, addDataType, addName, Array.getElem?_push]
    split <;> simp
  refine ⟨fun i n => ?_, fun i n hn => ?_, fun hnone i n hn => ?_⟩
  · rw [ownerOf?_push hpushed, hfield]
    by_cases hn : n = ⟨d.dataTypes.size⟩
    · -- No field from before has the new data type.
      have hold : ¬d.fields[i]?.map (·.dataType) = some n := by
        intro hhas
        exact ne_size_of_ownerOf? ((h.ofField i n).1 hhas) hn
      by_cases hi : i = d.fields.size
      · simp [hi, hn]
      · simpa [hi, hn, Ne.symm hi] using hold
    · by_cases hi : i = d.fields.size
      · -- No data type from before names the new field.
        have hold : ¬d.ownerOf? n = some (.field ⟨i⟩) := by
          rw [← h.ofField, hi]
          simp
        simpa [hi, hn, Ne.symm hn] using hold
      · rw [if_neg hi, if_neg hn, h.ofField]
  · have hold := h.ofTypedef i n hn
    rw [ownerOf?_push hpushed, if_neg (ne_size_of_ownerOf? hold), hold]
  · rw [ownerOf?_push hpushed] at hn
    split at hn
    · simp at hn
    · exact h.toTypedef hnone i n hn

section Define

variable {t : TypedefId} {form : TypeForm} (h : d.Owned) (hfields : d'.fields = d.fields)
  (hdataTypes : d'.dataTypes = d.dataTypes.push { form, owner := .typedef t })
include h hfields hdataTypes

/-- A definition does not concern the fields. -/
theorem ofField_define (i : Nat) (n : DataTypeId) :
    d'.fields[i]?.map (·.dataType) = some n ↔ d'.ownerOf? n = some (.field ⟨i⟩) := by
  rw [ownerOf?_push hdataTypes, hfields, h.ofField]
  split
  · next hn => simp [hn, ownerOf?]
  · rfl

/-- Once a typedef is defined, it and its data type name each other. A second definition leaves a
data type behind that nothing has. -/
theorem of_defines (hdefines : d.Defines t d') : d'.Owned := by
  refine ⟨h.ofField_define hfields hdataTypes, fun i n hn => ?_, fun hnone i n hn => ?_⟩
  · have hold (hn : d.definition? i = some n) : d'.ownerOf? n = some (.typedef ⟨i⟩) := by
      have howner := h.ofTypedef i n hn
      rw [ownerOf?_push hdataTypes, if_neg (ne_size_of_ownerOf? howner), howner]
    cases hdefines with
    | first _ definitions =>
      rw [definitions] at hn
      split at hn
      · next hi =>
        obtain rfl := Option.some.inj hn
        rw [ownerOf?_push hdataTypes, if_pos rfl, ← hi]
      · exact hold hn
    | again _ _ typedefs =>
      rw [definition?, typedefs] at hn
      exact hold hn
  · cases hdefines with
    | first fresh definitions _ redefined =>
      rw [ownerOf?_push hdataTypes] at hn
      rw [definitions]
      split at hn
      · next hnew =>
        obtain rfl := TypeOwner.typedef.inj (Option.some.inj hn)
        rw [if_pos rfl, hnew]
      · have hold := h.toTypedef (redefined ▸ hnone) i n hn
        -- The typedef had no data type before, so it is not the one of an old data type.
        have hne : t.index ≠ i := by
          rintro rfl
          cases fresh.symm.trans hold
        rw [if_neg hne, hold]
    | again _ _ _ redefined =>
      rw [redefined] at hnone
      cases hfault : d.redefined <;> simp [hfault] at hnone

end Define

theorem define (h : d.Owned) {t : TypedefId} (ht : d.issued (.typedef t)) (form : TypeForm) :
    (d.define t form).2.Owned := by
  obtain ⟨hfields, hdataTypes⟩ : (d.define t form).2.fields = d.fields ∧
      (d.define t form).2.dataTypes = d.dataTypes.push { form, owner := .typedef t } := by
    simp only [Draft.define, addDataType]
    split
    · exact ⟨rfl, rfl⟩
    · split <;> exact ⟨rfl, rfl⟩
  exact h.of_defines hfields hdataTypes (defines_define ht form)

theorem perform (h : d.Owned) {c : Call} (hc : ∀ n ∈ c.target?, d.issued n) :
    (d.perform c).Owned := by
  cases c with
  | addName | addPackage | addClass | setPackageDefaults | setParent | setFinal
  | setClassDefaults =>
    exact h.congr (fun _ => rfl) (fun _ => rfl) (fun _ => rfl) rfl
  | addTypedef package name =>
    exact h.congr (fun _ => rfl) (definition?_addTypedef d package name) (fun _ => rfl) rfl
  | addEnum package name values =>
    simp only [Draft.perform, addEnum, foldl_addName]
    exact h.congr (fun _ => rfl) (fun _ => rfl) (fun _ => rfl) rfl
  | addField owner name form => exact h.addField owner name form
  | define t form => exact h.define (hc _ rfl) form
  | setRequired =>
    refine h.congr (fun i => ?_) (fun _ => rfl) (fun _ => rfl) rfl
    exact map_getElem?_modify _ _ _ _ _ fun _ => rfl
  | setSpan node span =>
    cases node with
    | package | classDecl | enumDecl =>
      exact h.congr (fun _ => rfl) (fun _ => rfl) (fun _ => rfl) rfl
    | field =>
      refine h.congr (fun i => ?_) (fun _ => rfl) (fun _ => rfl) rfl
      exact map_getElem?_modify _ _ _ _ _ fun _ => rfl
    | typedef t =>
      exact h.congr (fun _ => rfl) (definition?_setSpan d (.typedef t) span) (fun _ => rfl) rfl
    | dataType =>
      refine h.congr (fun _ => rfl) (fun _ => rfl) (fun n => ?_) rfl
      exact map_getElem?_modify _ _ _ _ _ fun _ => rfl

end Owned

theorem owned_of_replay {calls : List Call} {d : Draft} (h : empty.replay calls = some d) :
    d.Owned :=
  replay_invariant .empty (fun _ _ hd hc => hd.perform hc) h

end Draft

/-! ## Schemas -/

namespace Schema

/-- What points at something in the schema is pointed at from there: data types at the fields and
typedefs in which they are written, one for one, and fields at their classes. -/
structure BackReferenced (s : Schema) : Prop where
  field_iff : ∀ f x, (∃ d, s.field? f = some d ∧ d.dataType = x) ↔
    ∃ n, s.dataType? x = some n ∧ n.owner = .field f
  typedef_iff : ∀ t x, (∃ d, s.typedef? t = some d ∧ d.dataType = x) ↔
    ∃ n, s.dataType? x = some n ∧ n.owner = .typedef t
  owners : (s.dataTypes.toList.map (·.owner)).Perm
    (s.fieldIds.map .field ++ s.typedefIds.map .typedef)
  /-- The class of a field lists it once. -/
  listed : ∀ f d, s.field? f = some d →
    ∃ c, s.class? d.owner = some c ∧ c.fields.toList.count f = 1
  /-- No other class lists it. -/
  lister : ∀ c d, s.class? c = some d → ∀ f ∈ d.fields,
    ∃ fd, s.field? f = some fd ∧ fd.owner = c
  increasing : ∀ c d, s.class? c = some d →
    d.fields.toList.Pairwise fun f g => f.index < g.index

variable {s : Schema}

theorem mem_owners {o : TypeOwner} : o ∈ s.dataTypes.toList.map (·.owner) ↔
    ∃ x n, s.dataType? x = some n ∧ n.owner = o := by
  simp only [List.mem_map, Array.mem_toList_iff, Array.mem_iff_getElem?]
  constructor
  · rintro ⟨n, ⟨i, hn⟩, howner⟩
    exact ⟨⟨i⟩, n, hn, howner⟩
  · rintro ⟨x, n, hn, howner⟩
    exact ⟨n, ⟨x.index, hn⟩, howner⟩

theorem nodup_fields_typedefs (s : Schema) :
    (s.fieldIds.map TypeOwner.field ++ s.typedefIds.map TypeOwner.typedef).Nodup := by
  rw [List.nodup_append]
  refine ⟨?_, ?_, by simp⟩
  · exact (List.nodup_range.map fun _ _ => FieldId.mk.inj).map fun _ _ => TypeOwner.field.inj
  · exact (List.nodup_range.map fun _ _ => TypedefId.mk.inj).map fun _ _ => TypeOwner.typedef.inj

section Owners

variable
  (hfield : ∀ f x, (∃ d, s.field? f = some d ∧ d.dataType = x) ↔
    ∃ n, s.dataType? x = some n ∧ n.owner = .field f)
  (htypedef : ∀ t x, (∃ d, s.typedef? t = some d ∧ d.dataType = x) ↔
    ∃ n, s.dataType? x = some n ∧ n.owner = .typedef t)
include hfield htypedef

/-- An owner has one data type, so there are no two that name it. -/
theorem eq_of_owner_eq {x y : DataTypeId} {n k : DataType} (hn : s.dataType? x = some n)
    (hk : s.dataType? y = some k) (howner : n.owner = k.owner) : x = y := by
  cases hform : k.owner with
  | field f =>
    obtain ⟨d, hd, rfl⟩ := (hfield f x).2 ⟨n, hn, howner.trans hform⟩
    obtain ⟨d', hd', rfl⟩ := (hfield f y).2 ⟨k, hk, hform⟩
    rw [Option.some.inj (hd.symm.trans hd')]
  | typedef t =>
    obtain ⟨d, hd, rfl⟩ := (htypedef t x).2 ⟨n, hn, howner.trans hform⟩
    obtain ⟨d', hd', rfl⟩ := (htypedef t y).2 ⟨k, hk, hform⟩
    rw [Option.some.inj (hd.symm.trans hd')]

theorem nodup_owners : (s.dataTypes.toList.map (·.owner)).Nodup := by
  rw [List.nodup_iff_getElem?_ne_getElem?]
  intro i j hij hj heq
  have hj' : j < s.dataTypes.size := by simpa using hj
  have hn := Array.getElem?_eq_getElem (Nat.lt_trans hij hj')
  have hk := Array.getElem?_eq_getElem hj'
  simp only [List.getElem?_map, Array.getElem?_toList, hn, hk, Option.map_some,
    Option.some.injEq] at heq
  have hsame : (⟨i⟩ : DataTypeId) = ⟨j⟩ := eq_of_owner_eq hfield htypedef hn hk heq
  exact Nat.ne_of_lt hij (DataTypeId.mk.inj hsame)

/-- If owners and data types name each other, each field and typedef owns one data type. -/
theorem perm_owners : (s.dataTypes.toList.map (·.owner)).Perm
    (s.fieldIds.map .field ++ s.typedefIds.map .typedef) := by
  refine (List.perm_ext_iff_of_nodup (nodup_owners hfield htypedef)
    s.nodup_fields_typedefs).2 fun o => ?_
  rw [mem_owners, List.mem_append, List.mem_map, List.mem_map]
  cases o with
  | field f => simp [← hfield, mem_fieldIds]
  | typedef t => simp [← htypedef, mem_typedefIds]

end Owners

end Schema

/-! ## From drafts to schemas -/

namespace Draft

variable {d : Draft} {s : Schema}

theorem ownerOf?_eq_some_iff_of_finish (hs : d.finish = .ok s) {x : DataTypeId} {o : TypeOwner} :
    d.ownerOf? x = some o ↔ ∃ n, s.dataType? x = some n ∧ n.owner = o := by
  obtain ⟨-, -, heq⟩ := Schema.finish_eq_ok_iff.1 hs
  have hdataTypes : s.dataTypes = d.dataTypes := by rw [heq]
  rw [ownerOf?, Schema.dataType?, hdataTypes, Option.map_eq_some_iff]

namespace Owned

theorem field_iff (h : d.Owned) (hs : d.finish = .ok s) (f : FieldId) (x : DataTypeId) :
    (∃ fd, s.field? f = some fd ∧ fd.dataType = x) ↔
      ∃ n, s.dataType? x = some n ∧ n.owner = .field f := by
  obtain ⟨-, -, heq⟩ := Schema.finish_eq_ok_iff.1 hs
  have hfields : s.fields = d.fields := by rw [heq]
  rw [← ownerOf?_eq_some_iff_of_finish hs, ← h.ofField, Schema.field?, hfields,
    Option.map_eq_some_iff]

theorem typedef_iff (h : d.Owned) (hs : d.finish = .ok s) (t : TypedefId) (x : DataTypeId) :
    (∃ td, s.typedef? t = some td ∧ td.dataType = x) ↔
      ∃ n, s.dataType? x = some n ∧ n.owner = .typedef t := by
  obtain ⟨hnone, htypedefs, -⟩ := Schema.finish_eq_ok_iff.1 hs
  have hdefinition : d.definition? t.index = (s.typedef? t).map (·.dataType) := by
    rw [definition?, htypedefs, Array.getElem?_map, Schema.typedef?]
    cases s.typedefs[t.index]? <;> rfl
  rw [← ownerOf?_eq_some_iff_of_finish hs, ← Option.map_eq_some_iff, ← hdefinition]
  exact ⟨h.ofTypedef t.index x, h.toTypedef hnone t.index x⟩

end Owned

theorem Linked.exists_lister (h : d.Linked) (hs : d.finish = .ok s) {f : FieldId} {fd : FieldDecl}
    (hfd : s.field? f = some fd) :
    ∃ c, s.class? fd.owner = some c ∧ c.fields.toList.count f = 1 := by
  have hlisted := Schema.listed_of_finish h hs
  obtain ⟨-, -, heq⟩ := Schema.finish_eq_ok_iff.1 hs
  have hlt : fd.owner.index < s.classes.size := by
    rw [Schema.field?, heq] at hfd
    rw [heq]
    exact h.owners fd (Array.mem_of_getElem? hfd)
  obtain ⟨c, hc⟩ := Schema.lt_size_iff.1 hlt
  have hmem : f ∈ c.fields := (hlisted.mem_iff hc).2 ⟨fd, hfd, rfl⟩
  exact ⟨c, hc, List.count_eq_one_of_mem (hlisted.nodup hc) (Array.mem_toList_iff.2 hmem)⟩

/-- **Back-references.** Whatever calls with handles of the draft have built, what it is finished
into points back from everything that is pointed at. -/
theorem backReferenced_of_finish {calls : List Call} (h : empty.replay calls = some d)
    (hs : d.finish = .ok s) : s.BackReferenced := by
  have howned := owned_of_replay h
  have hlinked := linked_of_replay h
  have hlisted := Schema.listed_of_finish hlinked hs
  exact {
    field_iff := howned.field_iff hs
    typedef_iff := howned.typedef_iff hs
    owners := Schema.perm_owners (howned.field_iff hs) (howned.typedef_iff hs)
    listed := fun _ _ hfd => hlinked.exists_lister hs hfd
    lister := fun _ _ hcd _ hf => (hlisted.mem_iff hcd).1 hf
    increasing := fun _ _ hcd => hlisted.increasing hcd }

end Draft

end SchemaTypes
