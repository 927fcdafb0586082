/-
When an elementary type has a target, and which failure it has otherwise.

In a closed schema there is always an answer, and exactly three things stand
in the way of a target: no package is around the data type, its name is in no
entry of the table, or it is an `enum` without an enumeration
(`Resolvable`). Every failure carries the declared name and the place of the
data type (`Closed.elementaryTarget`).
-/
import SchemaTypes.Proofs.OutwardWalk
import SchemaTypes.Resolution.Resolve

namespace SchemaTypes

/-! ## Names and kinds -/

namespace Kind

theorem fold_of_mem_table {entry : String × Kind} (h : entry ∈ table) :
    Text.fold entry.1 = entry.1.toList := by
  revert entry
  decide

theorem table_keys_nodup : (table.map (·.1)).Nodup := by decide

theorem of_find? {name : String} {entry : String × Kind}
    (h : table.find? (fun entry => Text.sameLetters entry.1 name) = some entry) :
    entry ∈ table ∧ Text.fold name = entry.1.toList := by
  have hmem := List.mem_of_find?_eq_some h
  have hsame : Text.sameLetters entry.1 name := List.find?_eq_some_iff_append.1 h |>.1
  exact ⟨hmem, (Text.sameLetters_iff.1 hsame).symm.trans (fold_of_mem_table hmem)⟩

theorem ofName?_eq_some_iff {name : String} {k : Kind} :
    ofName? name = some k ↔ ∃ key, (key, k) ∈ table ∧ Text.fold name = key.toList := by
  simp only [ofName?, Option.map_eq_some_iff]
  constructor
  · rintro ⟨entry, hfound, rfl⟩
    exact ⟨entry.1, of_find? hfound⟩
  · rintro ⟨key, hmem, hfold⟩
    have hsame : Text.sameLetters key name := by
      rw [Text.sameLetters_iff, fold_of_mem_table hmem, hfold]
    cases hfound : table.find? fun entry => Text.sameLetters entry.1 name with
    | none => exact absurd hsame (List.find?_eq_none.1 hfound _ hmem)
    | some entry =>
      obtain ⟨hmem', hfold'⟩ := of_find? hfound
      have hkey : entry.1 = key := String.toList_inj.1 (hfold'.symm.trans hfold)
      have hentry := List.inj_on_of_nodup_map table_keys_nodup hmem' hmem hkey
      exact ⟨entry, rfl, congrArg Prod.snd hentry⟩

end Kind

/-- What the declared name denotes. -/
def Elementary.kind? (e : Elementary) : Option Kind :=
  Kind.ofName? e.name

/-- The table has the declared name, up to the case of ASCII letters, and this kind beside it. -/
def Elementary.HasKind (e : Elementary) (k : Kind) : Prop :=
  ∃ key, (key, k) ∈ Kind.table ∧ Text.sameLetters key e.name

theorem Elementary.kind?_eq_some_iff {e : Elementary} {k : Kind} :
    e.kind? = some k ↔ e.HasKind k := by
  rw [kind?, Kind.ofName?_eq_some_iff]
  refine exists_congr fun key => and_congr_right fun hmem => ?_
  rw [Text.sameLetters_iff, Kind.fold_of_mem_table hmem, eq_comm]

theorem Spelling.ofName?_canonical (declared : String) :
    Kind.ofName? (canonical declared).name = Kind.ofName? declared := by
  have hboxed : Kind.ofName? (boxedName declared) = Kind.ofName? declared := by
    unfold boxedName
    split
    · decide
    · decide
    · rfl
  have hprimitive : Kind.ofName? (primitiveName declared) = Kind.ofName? declared := by
    unfold primitiveName
    split
    · decide
    · decide
    · rfl
  simp only [canonical]
  split
  · exact hboxed
  · exact hprimitive

theorem Kind.representation?_eq_none {k : Kind} : k.representation? = none ↔ k = .enum := by
  cases k <;> simp [Kind.representation?]

namespace Schema

variable {s : Schema}

/-- The way outward from a data type leads to a package. -/
def InPackage (s : Schema) (id : DataTypeId) : Prop :=
  ∃ outer p, s.Outward (.dataType id) outer ∧ Node.package p ∈ outer

/-- An elementary type with nothing wrong about it: inside a package, under a name of the
table, and with an enumeration if it is an `enum`. -/
structure Resolvable (s : Schema) (id : DataTypeId) (e : Elementary) : Prop where
  inPackage : s.InPackage id
  kind : ∃ k, e.HasKind k
  enumeration : e.HasKind .enum → ∃ n, e.enumeration = some n

/-- There are defaults blocks to look at exactly inside of a package. -/
theorem Closed.cascade (h : s.Closed) {id : DataTypeId} {d : DataType}
    (hd : s.dataType? id = some d) :
    (s.InPackage id ∧ ∃ c, Cascade.ofDataType s id = some (some c)) ∨
      (¬s.InPackage id ∧ Cascade.ofDataType s id = some none) := by
  have hthere : s.has (.dataType id) := decide_eq_true (lt_size_iff.2 ⟨d, hd⟩)
  obtain ⟨outer, houter, hhas⟩ := h.exists_outward hthere
  rw [Cascade.ofDataType_eq_along, containers_eq_some_iff.2 houter, Option.bind_some]
  rcases Cascade.along_cases hhas none with ⟨⟨p, hp⟩, hblocks⟩ | ⟨hnone, hblocks⟩
  · exact .inl ⟨⟨outer, p, houter, hp⟩, hblocks⟩
  · refine .inr ⟨?_, hblocks⟩
    rintro ⟨outer', p, houter', hp⟩
    exact hnone p (houter.unique houter' ▸ hp)

/-- The representation is there unless an `enum` lacks its enumeration. -/
theorem Closed.representation (h : s.Closed) {id : DataTypeId} {d : DataType}
    (hd : s.dataType? id = some d) {e : Elementary} (he : d.form = .elementary e) (k : Kind) :
    (∃ r, s.representation k e = some (some r) ∧ (k = .enum → ∃ n, e.enumeration = some n)) ∨
      (s.representation k e = some none ∧ k = .enum ∧ e.enumeration = none) := by
  cases hk : k.representation? with
  | some r =>
    have hne : k ≠ .enum := fun e => by simp [Kind.representation?_eq_none.2 e] at hk
    exact .inl ⟨r, by simp [Schema.representation, hk], fun e => absurd e hne⟩
  | none =>
    cases hn : e.enumeration with
    | none =>
      exact .inr ⟨by simp [Schema.representation, hk, hn], Kind.representation?_eq_none.1 hk, rfl⟩
    | some n =>
      obtain ⟨ed, hed⟩ := h.elementary_enum hd he hn
      exact .inl ⟨_, by simp [Schema.representation, hk, hn, hed]; rfl, fun _ => ⟨n, rfl⟩⟩

/-- The outcome at an elementary data type: a target if nothing stands in the way, and
otherwise a failure with the declared name and the place of the data type. -/
theorem Closed.elementaryTarget (h : s.Closed) {id : DataTypeId} {d : DataType}
    (hd : s.dataType? id = some d) {e : Elementary} (he : d.form = .elementary e) :
    (s.Resolvable id e ∧ ∃ target, s.elementaryTarget id e = some (.ok target)) ∨
      (¬s.Resolvable id e ∧
        ∃ cause, s.elementaryTarget id e = some (.error ⟨cause, e.name, d.span⟩)) := by
  rcases h.cascade hd with ⟨hin, c, hc⟩ | ⟨hin, hc⟩
  · have hattributes : Attributes.ofDataType s id e = some (.ok (.ofCascade c e)) := by
      simp [Attributes.ofDataType, hc]
    cases hk : e.kind? with
    | none =>
      have hunknown : ¬∃ k, e.HasKind k := by simp [← Elementary.kind?_eq_some_iff, hk]
      refine .inr ⟨fun hres => hunknown hres.kind, .unmappedType, ?_⟩
      rw [Elementary.kind?, ← Spelling.ofName?_canonical] at hk
      simp [Schema.elementaryTarget, hattributes, hd, hk]
    | some k =>
      have hkind := Elementary.kind?_eq_some_iff.1 hk
      have honly : e.HasKind .enum → k = .enum := fun henum =>
        Option.some.inj (hk.symm.trans (Elementary.kind?_eq_some_iff.2 henum))
      rw [Elementary.kind?, ← Spelling.ofName?_canonical] at hk
      rcases h.representation hd he k with ⟨r, hr, henum⟩ | ⟨hr, rfl, hnone⟩
      · refine .inl ⟨⟨hin, ⟨k, hkind⟩, fun hother => henum (honly hother)⟩, ?_⟩
        simp [Schema.elementaryTarget, hattributes, hd, hk, hr]
      · refine .inr ⟨fun hres => ?_, .missingEnum, ?_⟩
        · obtain ⟨n, hn⟩ := hres.enumeration hkind
          simp [hnone] at hn
        · simp [Schema.elementaryTarget, hattributes, hd, hk, hr]
  · refine .inr ⟨fun hres => hin hres.inPackage, .missingPackage, ?_⟩
    simp [Schema.elementaryTarget, Attributes.ofDataType, hc, hd]

/-- What a scalar can fail for: that no package is around it, or a name or an enumeration. -/
theorem elementaryTarget_cause {x : DataTypeId} {e : Elementary} {failure : Failure}
    (h : s.elementaryTarget x e = some (.error failure)) :
    failure.cause = .missingPackage ∧ Cascade.ofDataType s x = some none ∨
      failure.cause = .unmappedType ∨ failure.cause = .missingEnum := by
  simp only [elementaryTarget, Attributes.ofDataType, Option.bind_eq_bind,
    Option.bind_eq_some_iff] at h
  obtain ⟨attributes, ⟨cascade, hcascade, hattributes⟩, h⟩ := h
  cases attributes with
  | error failure' =>
    obtain rfl := Except.error.inj (Option.some.inj h)
    cases cascade with
    | some c => cases hattributes
    | none =>
      obtain ⟨d, -, hfailure⟩ := Option.bind_eq_some_iff.1 hattributes
      obtain rfl := Except.error.inj (Option.some.inj hfailure)
      exact .inl ⟨rfl, hcascade⟩
  | ok attributes =>
    obtain ⟨d, -, h⟩ := Option.bind_eq_some_iff.1 h
    split at h
    · obtain rfl := Except.error.inj (Option.some.inj h)
      exact .inr (.inl rfl)
    · obtain ⟨representation, -, h⟩ := Option.bind_eq_some_iff.1 h
      cases representation with
      | none =>
        obtain rfl := Except.error.inj (Option.some.inj h)
        exact .inr (.inr rfl)
      | some r => cases h

/-- A scalar by itself never fails for a circle. -/
theorem elementaryTarget_not_circular {x : DataTypeId} {e : Elementary} {failure : Failure}
    (h : s.elementaryTarget x e = some (.error failure)) :
    failure.cause ≠ .recursiveTypedef := by
  rcases elementaryTarget_cause h with ⟨hcause, -⟩ | hcause | hcause <;> simp [hcause]

end Schema

end SchemaTypes
