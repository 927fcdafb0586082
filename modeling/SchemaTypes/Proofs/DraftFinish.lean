/-
Which calls a draft can be finished after.

`declared` and `defined` tell from the calls alone which typedefs they declare
and which they define. `Recorded` is what a draft keeps of that, and each call
keeps it so: a typedef has a data type exactly if it was defined, and the fault
that is remembered is the first repetition among the definitions
(`FirstRepeat`). So how the construction ends can be told from the calls
(`finish_of_replay`).
-/
import SchemaTypes.Proofs.TypeOwners

namespace SchemaTypes

/-! ## The first repetition in a list -/

/-- A member of a list is the first one that has come before in it. -/
def FirstRepeat {α : Type} (x : α) (xs : List α) : Prop :=
  ∃ before after, xs = before ++ x :: after ∧ before.Nodup ∧ x ∈ before

namespace FirstRepeat

variable {α : Type} {x y : α} {xs : List α}

theorem concat (h : FirstRepeat x xs) (y : α) : FirstRepeat x (xs ++ [y]) := by
  obtain ⟨before, after, rfl, hnodup, hmem⟩ := h
  exact ⟨before, after ++ [y], by simp, hnodup, hmem⟩

theorem not_nodup (h : FirstRepeat x xs) : ¬xs.Nodup := by
  obtain ⟨before, after, rfl, -, hmem⟩ := h
  rw [List.nodup_append]
  intro ⟨_, _, hne⟩
  exact hne x hmem x List.mem_cons_self rfl

/-- There is only one, for up to another one the list would have a repetition already. -/
theorem unique (h : FirstRepeat x xs) (h' : FirstRepeat y xs) : x = y := by
  obtain ⟨before, after, rfl, hnodup, hmem⟩ := h
  obtain ⟨before', after', heq, hnodup', hmem'⟩ := h'
  rcases List.append_eq_append_iff.1 heq with ⟨more, rfl, hmore⟩ | ⟨more, rfl, hmore⟩
  · cases more with
    | nil => exact (List.cons.inj hmore).1
    | cons z more =>
      obtain rfl := (List.cons.inj hmore).1
      exact absurd hnodup' (not_nodup ⟨before, more, rfl, hnodup, hmem⟩)
  · cases more with
    | nil => exact (List.cons.inj hmore).1.symm
    | cons z more =>
      obtain rfl := (List.cons.inj hmore).1
      exact absurd hnodup (not_nodup ⟨before', more, rfl, hnodup', hmem'⟩)

end FirstRepeat

namespace Draft

/-! ## What calls declare and define -/

/-- The name of the typedef that a call declares. -/
def Call.declared? : Call → Option String
  | .addTypedef _ name => some name
  | _ => none

/-- The typedef that a call defines. -/
def Call.defined? : Call → Option TypedefId
  | .define t _ => some t
  | _ => none

/-- The names of the typedefs that calls declare, in the order of their handles. -/
def declared (calls : List Call) : List String :=
  calls.filterMap (·.declared?)

/-- The typedefs that calls define, in the order of the calls. -/
def defined (calls : List Call) : List TypedefId :=
  calls.filterMap (·.defined?)

theorem declared_concat (calls : List Call) (c : Call) :
    declared (calls ++ [c]) = declared calls ++ c.declared?.toList := by
  cases h : c.declared? <;> simp [declared, h]

theorem defined_concat (calls : List Call) (c : Call) :
    defined (calls ++ [c]) = defined calls ++ c.defined?.toList := by
  cases h : c.defined? <;> simp [defined, h]

/-- What a draft keeps of the declarations and definitions among the calls that built it. -/
structure Recorded (calls : List Call) (d : Draft) : Prop where
  names : d.typedefs.toList.map (·.name) = declared calls
  isSome_iff : ∀ i, (d.definition? i).isSome ↔ ⟨i⟩ ∈ defined calls
  distinct : d.redefined = none → (defined calls).Nodup
  repeated : ∀ name, d.redefined = some name →
    ∃ t, FirstRepeat t (defined calls) ∧ (declared calls)[t.index]? = some name

namespace Recorded

variable {calls : List Call} {d d' : Draft} {c : Call}

theorem empty : Recorded [] .empty where
  names := rfl
  isSome_iff i := by simp [Draft.empty, definition?, defined]
  distinct _ := List.nodup_nil
  repeated name h := by cases h

theorem name_of (h : Recorded calls d) (i : Nat) :
    (declared calls)[i]? = d.typedefs[i]?.map (·.name) := by
  rw [← h.names, List.getElem?_map, Array.getElem?_toList]

theorem size_eq (h : Recorded calls d) : d.typedefs.size = (declared calls).length := by
  rw [← h.names, List.length_map, Array.length_toList]

theorem other (h : Recorded calls d) (hdeclared : c.declared? = none) (hdefined : c.defined? = none)
    (hnames : ∀ i : Nat, d'.typedefs[i]?.map (·.name) = d.typedefs[i]?.map (·.name))
    (hdefinition : ∀ i, d'.definition? i = d.definition? i)
    (hredefined : d'.redefined = d.redefined) : Recorded (calls ++ [c]) d' := by
  have hdeclared' : declared (calls ++ [c]) = declared calls := by
    simp [declared_concat, hdeclared]
  have hdefined' : defined (calls ++ [c]) = defined calls := by simp [defined_concat, hdefined]
  refine ⟨?_, fun i => ?_, ?_, ?_⟩
  · rw [hdeclared', ← h.names]
    exact List.ext_getElem? fun i => by simpa using hnames i
  · rw [hdefined', hdefinition, h.isSome_iff]
  · rw [hredefined, hdefined']
    exact h.distinct
  · rw [hredefined, hdeclared', hdefined']
    exact h.repeated

theorem addTypedef (h : Recorded calls d) (package : Option PackageId) (name : String) :
    Recorded (calls ++ [.addTypedef package name]) (d.addTypedef package name).2 := by
  have hdefined : defined (calls ++ [.addTypedef package name]) = defined calls := by
    simp [defined_concat, Call.defined?]
  have hdeclared : declared (calls ++ [.addTypedef package name]) = declared calls ++ [name] := by
    simp [declared_concat, Call.declared?]
  refine ⟨?_, fun i => ?_, ?_, fun other hother => ?_⟩
  · simp [hdeclared, Draft.addTypedef, ← h.names]
  · rw [hdefined, definition?_addTypedef, h.isSome_iff]
  · rw [hdefined]
    exact h.distinct
  · obtain ⟨t, hrepeat, hname⟩ := h.repeated other hother
    have hlt := (List.getElem?_eq_some_iff.1 hname).1
    refine ⟨t, by rwa [hdefined], ?_⟩
    rw [hdeclared, List.getElem?_append_left hlt, hname]

section Define

variable {t : TypedefId} {form : TypeForm}

theorem declared_define :
    declared (calls ++ [.define t form]) = declared calls := by
  simp [declared_concat, Call.declared?]

theorem defined_define :
    defined (calls ++ [.define t form]) = defined calls ++ [t] := by
  simp [defined_concat, Call.defined?]

/-- A first definition is no repetition. Of the others the first one is remembered. -/
theorem of_defines (h : Recorded calls d) (hdefines : d.Defines t d') :
    Recorded (calls ++ [.define t form]) d' := by
  have hmem (i : Nat) : ⟨i⟩ ∈ defined (calls ++ [.define t form]) ↔
      t.index = i ∨ (d.definition? i).isSome := by
    have ht : (⟨i⟩ : TypedefId) = t ↔ t.index = i :=
      ⟨fun heq => by rw [← heq], fun heq => by rw [← heq]⟩
    rw [defined_define, List.mem_append, List.mem_singleton, ht, h.isSome_iff, or_comm]
  cases hdefines with
  | first fresh definitions names redefined =>
    have hfresh : t ∉ defined calls := by
      rw [← h.isSome_iff t.index, fresh]
      simp
    refine ⟨?_, fun i => ?_, fun hnone => ?_, fun name hname => ?_⟩
    · rw [declared_define, ← h.names]
      exact List.ext_getElem? fun i => by simpa using names i
    · rw [hmem, definitions]
      by_cases hi : t.index = i <;> simp [hi]
    · rw [defined_define, ← List.concat_eq_append, List.nodup_concat]
      exact ⟨hfresh, h.distinct (redefined ▸ hnone)⟩
    · obtain ⟨u, hrepeat, hu⟩ := h.repeated name (redefined ▸ hname)
      rw [declared_define, defined_define]
      exact ⟨u, hrepeat.concat t, hu⟩
  | @again name declared defined typedefs redefined =>
    refine ⟨?_, fun i => ?_, fun hnone => ?_, fun other hother => ?_⟩
    · rw [declared_define, typedefs, h.names]
    · rw [hmem, definition?, typedefs, ← definition?]
      refine ⟨.inr, fun hdefined => ?_⟩
      rcases hdefined with rfl | hdefined
      · exact defined
      · exact hdefined
    · rw [redefined] at hnone
      cases hfault : d.redefined <;> simp [hfault] at hnone
    · rw [declared_define, defined_define]
      rw [redefined] at hother
      cases hfault : d.redefined with
      | none =>
        obtain rfl : name = other := by simpa [hfault] using hother
        have hagain := (h.isSome_iff t.index).1 defined
        refine ⟨t, ⟨_, [], rfl, h.distinct hfault, hagain⟩, ?_⟩
        rw [h.name_of, declared]
      | some fault =>
        obtain rfl : fault = other := by simpa [hfault] using hother
        obtain ⟨u, hrepeat, hu⟩ := h.repeated fault hfault
        exact ⟨u, hrepeat.concat t, hu⟩

end Define

theorem perform (h : Recorded calls d) (hc : ∀ n ∈ c.target?, d.issued n) :
    Recorded (calls ++ [c]) (d.perform c) := by
  cases c with
  | addName | addPackage | addClass | addField | setPackageDefaults | setParent | setFinal
  | setClassDefaults | setRequired =>
    exact h.other rfl rfl (fun _ => rfl) (fun _ => rfl) rfl
  | addTypedef package name => exact h.addTypedef package name
  | addEnum package name values =>
    simp only [Draft.perform, addEnum, foldl_addName]
    exact h.other rfl rfl (fun _ => rfl) (fun _ => rfl) rfl
  | define t form => exact h.of_defines (defines_define (hc _ rfl) form)
  | setSpan node span =>
    cases node with
    | package | classDecl | field | enumDecl | dataType =>
      exact h.other rfl rfl (fun _ => rfl) (fun _ => rfl) rfl
    | typedef t =>
      refine h.other rfl rfl (fun i => ?_) (definition?_setSpan d (.typedef t) span) rfl
      exact map_getElem?_modify _ _ _ _ _ fun _ => rfl

end Recorded

theorem recorded_of_replay {calls : List Call} {d : Draft} (h : empty.replay calls = some d) :
    Recorded calls d :=
  replay_induction .empty (fun _ _ _ hd hc => hd.perform hc) h

/-! ## The end of the construction -/

/-- Of typedefs the first one without a definition is at fault. -/
theorem mapM_finishTypedef_eq_error_iff {fault : DraftFault} : ∀ {ts : List DraftTypedef},
    ts.mapM finishTypedef = .error fault ↔ ∃ (i : Nat) (t : DraftTypedef), ts[i]? = some t ∧
      t.dataType = none ∧ (∀ j < i, (ts[j]?.bind (·.dataType)).isSome) ∧
      fault = .undefinedTypedef t.name
  | [] => by simp [pure, Except.pure]
  | t :: ts => by
    rw [List.mapM_cons]
    cases hd : t.dataType with
    | none =>
      have hfails : finishTypedef t = .error (.undefinedTypedef t.name) := by
        simp [finishTypedef, hd]
      rw [hfails]
      constructor
      · intro h
        obtain rfl := Except.error.inj h
        exact ⟨0, t, rfl, hd, by simp, rfl⟩
      · rintro ⟨i, u, hu, -, hall, rfl⟩
        cases i with
        | zero =>
          obtain rfl : t = u := by simpa using hu
          rfl
        | succ i =>
          have hfirst := hall 0 (Nat.succ_pos i)
          simp [hd] at hfirst
    | some n =>
      obtain ⟨decl, hdecl⟩ : ∃ decl, finishTypedef t = .ok decl := by simp [finishTypedef, hd]
      have htail : (finishTypedef t >>= fun decl => ts.mapM finishTypedef >>= fun decls =>
          pure (decl :: decls)) = .error fault ↔ ts.mapM finishTypedef = .error fault := by
        rw [hdecl]
        cases ts.mapM finishTypedef <;> simp [bind, Except.bind, pure, Except.pure]
      rw [htail, mapM_finishTypedef_eq_error_iff]
      constructor
      · rintro ⟨i, u, hu, hnone, hall, rfl⟩
        refine ⟨i + 1, u, by simpa using hu, hnone, fun j hj => ?_, rfl⟩
        cases j with
        | zero => simp [hd]
        | succ j => simpa using hall j (by omega)
      · rintro ⟨i, u, hu, hnone, hall, rfl⟩
        cases i with
        | zero =>
          obtain rfl : t = u := by simpa using hu
          simp [hd] at hnone
        | succ i =>
          refine ⟨i, u, by simpa using hu, hnone, fun j hj => ?_, rfl⟩
          simpa using hall (j + 1) (by omega)

variable {d : Draft}

/-- A typedef that was defined twice is reported before one that was never defined. -/
theorem finish_eq_error_iff {fault : DraftFault} : d.finish = .error fault ↔
    (∃ name, d.redefined = some name ∧ fault = .redefinedTypedef name) ∨
      d.redefined = none ∧ ∃ (i : Nat) (t : DraftTypedef), d.typedefs[i]? = some t ∧
        t.dataType = none ∧ (∀ j < i, (d.definition? j).isSome) ∧
        fault = .undefinedTypedef t.name := by
  unfold finish
  cases d.redefined with
  | some name =>
    constructor
    · intro h
      exact .inl ⟨name, rfl, (Except.error.inj h).symm⟩
    · rintro (⟨_, hname, rfl⟩ | ⟨hnone, -⟩)
      · obtain rfl := Option.some.inj hname
        rfl
      · cases hnone
  | none =>
    have hmapM : (d.typedefs.toList.mapM finishTypedef >>= fun typedefs => pure ({
          names := d.names, packages := d.packages, classes := d.classes, fields := d.fields,
          typedefs := typedefs.toArray, enums := d.enums, dataTypes := d.dataTypes } : Schema)) =
        .error fault ↔ d.typedefs.toList.mapM finishTypedef = .error fault := by
      cases d.typedefs.toList.mapM finishTypedef <;> simp [bind, Except.bind, pure, Except.pure]
    simp only [hmapM, mapM_finishTypedef_eq_error_iff, Array.getElem?_toList]
    simp [definition?]

/-- A draft can be finished if each typedef was defined and none of them twice. -/
theorem finish_isOk_iff : (∃ s, d.finish = .ok s) ↔
    d.redefined = none ∧ ∀ i < d.typedefs.size, (d.definition? i).isSome := by
  constructor
  · rintro ⟨s, hs⟩
    obtain ⟨hnone, htypedefs, -⟩ := Schema.finish_eq_ok_iff.1 hs
    refine ⟨hnone, fun i hi => ?_⟩
    have hlt : i < s.typedefs.size := by simpa [htypedefs] using hi
    simp [definition?, htypedefs, Array.getElem?_eq_getElem hlt, unfinished]
  · rintro ⟨hnone, hall⟩
    cases hfinish : d.finish with
    | ok s => exact ⟨s, rfl⟩
    | error fault =>
      rcases finish_eq_error_iff.1 hfinish with ⟨name, hsome, -⟩ | ⟨-, i, t, ht, hundefined, -⟩
      · cases hnone.symm.trans hsome
      · have hdefined := hall i (Array.getElem?_eq_some_iff.1 ht).1
        simp [definition?, ht, hundefined] at hdefined

/-- How the construction of a draft ends, told by the calls alone. -/
structure EndsAfter (calls : List Call) (d : Draft) : Prop where
  /-- There is a schema if each declared typedef was defined exactly once. -/
  isOk_iff : (∃ s, d.finish = .ok s) ↔
    ∀ t : TypedefId, t.index < (declared calls).length → (defined calls).count t = 1
  /-- Otherwise the typedef is named that was the first to be defined again. -/
  redefined_iff : ∀ name, d.finish = .error (.redefinedTypedef name) ↔
    ∃ t, FirstRepeat t (defined calls) ∧ (declared calls)[t.index]? = some name
  /-- And if there is none, of those that were never defined the one with the lowest handle. -/
  undefined_iff : ∀ name, d.finish = .error (.undefinedTypedef name) ↔
    (∀ t, ¬FirstRepeat t (defined calls)) ∧ ∃ t, t ∉ defined calls ∧
      (declared calls)[t.index]? = some name ∧
      ∀ u : TypedefId, u.index < t.index → u ∈ defined calls

namespace Recorded

variable {calls : List Call}

theorem redefined_eq_some_iff (h : Recorded calls d) {name : String} :
    d.redefined = some name ↔
      ∃ t, FirstRepeat t (defined calls) ∧ (declared calls)[t.index]? = some name := by
  refine ⟨h.repeated name, fun ⟨t, hrepeat, hname⟩ => ?_⟩
  cases hfault : d.redefined with
  | none => exact absurd (h.distinct hfault) hrepeat.not_nodup
  | some fault =>
    obtain ⟨u, hrepeat', hfaultName⟩ := h.repeated fault hfault
    obtain rfl := hrepeat.unique hrepeat'
    exact hfaultName.symm.trans hname

theorem redefined_eq_none_iff (h : Recorded calls d) :
    d.redefined = none ↔ (defined calls).Nodup := by
  refine ⟨h.distinct, fun hnodup => ?_⟩
  cases hfault : d.redefined with
  | none => rfl
  | some fault =>
    obtain ⟨t, hrepeat, -⟩ := h.repeated fault hfault
    exact absurd hnodup hrepeat.not_nodup

theorem lt_of_mem_defined (h : Recorded calls d) {t : TypedefId} (ht : t ∈ defined calls) :
    t.index < (declared calls).length := by
  have hsome := (h.isSome_iff t.index).2 ht
  rw [← h.size_eq]
  by_contra hge
  rw [definition?, Array.getElem?_eq_none (by omega)] at hsome
  cases hsome

theorem forall_count_eq_one_iff (h : Recorded calls d) :
    (∀ t : TypedefId, t.index < (declared calls).length → (defined calls).count t = 1) ↔
      (defined calls).Nodup ∧ ∀ i < (declared calls).length, ⟨i⟩ ∈ defined calls := by
  constructor
  · intro hone
    refine ⟨List.nodup_iff_count_le_one.2 fun t => ?_, fun i hi => ?_⟩
    · by_cases ht : t ∈ defined calls
      · exact Nat.le_of_eq (hone t (h.lt_of_mem_defined ht))
      · rw [List.count_eq_zero.2 ht]
        exact Nat.zero_le 1
    · apply List.count_pos_iff.1
      rw [hone ⟨i⟩ hi]
      exact Nat.one_pos
  · rintro ⟨hnodup, hall⟩ t ht
    exact List.count_eq_one_of_mem hnodup (hall t.index ht)

theorem endsAfter (h : Recorded calls d) : EndsAfter calls d where
  isOk_iff := by
    rw [finish_isOk_iff, h.forall_count_eq_one_iff, h.redefined_eq_none_iff, h.size_eq]
    simp only [h.isSome_iff]
  redefined_iff name := by
    rw [finish_eq_error_iff, ← h.redefined_eq_some_iff]
    simp
  undefined_iff name := by
    have hnone : d.redefined = none ↔ ∀ t, ¬FirstRepeat t (defined calls) := by
      refine ⟨fun hnone t hrepeat => ?_, fun hnever => ?_⟩
      · exact hrepeat.not_nodup (h.redefined_eq_none_iff.1 hnone)
      · cases hfault : d.redefined with
        | none => rfl
        | some fault =>
          obtain ⟨t, hrepeat, -⟩ := h.repeated fault hfault
          exact absurd hrepeat (hnever t)
    rw [finish_eq_error_iff, ← hnone]
    constructor
    · rintro (⟨_, _, hfault⟩ | ⟨hredefined, i, t, ht, hundefined, hall, hfault⟩)
      · cases hfault
      · obtain rfl := DraftFault.undefinedTypedef.inj hfault
        refine ⟨hredefined, ⟨i⟩, fun hmem => ?_, ?_, fun u hu => ?_⟩
        · have hsome := (h.isSome_iff i).2 hmem
          simp [definition?, ht, hundefined] at hsome
        · rw [h.name_of, ht, Option.map_some]
        · exact (h.isSome_iff u.index).1 (hall u.index hu)
    · rintro ⟨hredefined, t, hmem, hname, hall⟩
      rw [h.name_of, Option.map_eq_some_iff] at hname
      obtain ⟨pending, hpending, rfl⟩ := hname
      refine .inr ⟨hredefined, t.index, pending, hpending, ?_, fun j hj => ?_, rfl⟩
      · have hundefined := mt (h.isSome_iff t.index).1 hmem
        simpa [definition?, hpending] using hundefined
      · exact (h.isSome_iff j).2 (hall ⟨j⟩ hj)

end Recorded

/-- **The end of a draft.** Whatever calls with handles of the draft have built, they tell whether
it can be finished and what is wrong otherwise, and a schema points back from everything that is
pointed at. -/
theorem finish_of_replay {calls : List Call} (h : empty.replay calls = some d) :
    EndsAfter calls d ∧ ∀ s, d.finish = .ok s → s.BackReferenced :=
  ⟨(recorded_of_replay h).endsAfter, fun _ hs => backReferenced_of_finish h hs⟩

/-- The calls define each of the three typedefs once. -/
theorem finish_of_replay_sample : ∃ d, empty.replay Schema.sampleCalls = some d ∧
    d.finish = .ok Schema.sample ∧ EndsAfter Schema.sampleCalls d ∧
    Schema.sample.BackReferenced := by
  obtain ⟨hends, hback⟩ := @finish_of_replay _ Schema.sampleCalls rfl
  exact ⟨_, rfl, rfl, hends, hback _ rfl⟩

-- `B` is the first to be defined again, though `A` has the lower handle.
example : (empty.replay (Schema.sampleCalls ++
      [.define ⟨1⟩ (.alias ⟨2⟩), .define ⟨0⟩ (.alias ⟨2⟩)])).map (·.finish) =
    some (.error <| DraftFault.redefinedTypedef "B") := rfl

end Draft

end SchemaTypes
