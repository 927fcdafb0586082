/-
What a data type comes to, told without a memo: the typedefs are followed one
by one, and nothing is remembered but the way.

`Answers` has one case for each thing that can happen on that way. In a closed
schema exactly one of them does (`Closed.exists_answer`, `Answers.unique`).
-/
import SchemaTypes.Proofs.ElementaryTarget
import SchemaTypes.Proofs.LinkPath

namespace SchemaTypes.Schema

/-! ## Following typedefs -/

/-- The typedef that a data type names, if it names one. -/
def alias? (s : Schema) (id : DataTypeId) : Option TypedefId := do
  let d ← s.dataType? id
  match d.form with
  | .alias t => some t
  | _ => none

/-- One step along the typedefs: the data type behind the typedef that a data type names. -/
def aliased? (s : Schema) (id : DataTypeId) : Option DataTypeId := do
  let t ← s.alias? id
  let d ← s.typedef? t
  pure d.dataType

variable {s : Schema} {id y z : DataTypeId}

theorem alias?_eq_some {t : TypedefId} :
    s.alias? id = some t ↔ ∃ d, s.dataType? id = some d ∧ d.form = .alias t := by
  simp only [alias?, Option.bind_eq_bind, Option.bind_eq_some_iff]
  refine exists_congr fun d => and_congr_right fun _ => ?_
  cases d.form <;> simp

theorem aliased?_eq_some :
    s.aliased? id = some y ↔
      ∃ t d, s.alias? id = some t ∧ s.typedef? t = some d ∧ d.dataType = y := by
  simp [aliased?, Option.bind_eq_some_iff]

theorem alias?_of_aliased? (h : s.aliased? id = some y) : ∃ t, s.alias? id = some t := by
  obtain ⟨t, -, ht, -⟩ := aliased?_eq_some.1 h
  exact ⟨t, ht⟩

theorem mem_dataTypeIds_of_aliased? (h : s.aliased? id = some y) : id ∈ s.dataTypeIds := by
  obtain ⟨t, ht⟩ := alias?_of_aliased? h
  obtain ⟨d, hd, -⟩ := alias?_eq_some.1 ht
  exact mem_dataTypeIds.2 ⟨d, hd⟩

theorem Closed.aliased? (h : s.Closed) {t : TypedefId} (ht : s.alias? id = some t) :
    ∃ y, s.aliased? id = some y := by
  obtain ⟨d, hd, hform⟩ := alias?_eq_some.1 ht
  obtain ⟨td, htd⟩ := h.alias_typedef hd hform
  exact ⟨_, aliased?_eq_some.2 ⟨t, td, ht, htd, rfl⟩⟩

theorem Closed.mem_dataTypeIds_of_path (h : s.Closed) {xs : List DataTypeId}
    (hid : id ∈ s.dataTypeIds) (hpath : Path s.aliased? id xs z) : z ∈ s.dataTypeIds := by
  induction hpath with
  | here => exact hid
  | step link _ ih =>
    obtain ⟨t, td, -, htd, rfl⟩ := aliased?_eq_some.1 link
    exact ih (mem_dataTypeIds.2 (h.typedef_dataType htd))

/-! ## The end of the way -/

/-- What a data type that names no typedef comes to by itself. -/
inductive Terminal (s : Schema) (id : DataTypeId) : Except Failure Target → Prop
  | object {d : DataType} {c : ClassId} (hd : s.dataType? id = some d)
    (hform : d.form = .object c) : Terminal s id (.ok (.object c))
  | elementary {d : DataType} {e : Elementary} {target : ElementaryTarget}
    (hd : s.dataType? id = some d) (hform : d.form = .elementary e)
    (htarget : s.elementaryTarget id e = some (.ok target)) :
    Terminal s id (.ok (.elementary target))
  | failing {d : DataType} {e : Elementary} {cause : FailureCause}
    (hd : s.dataType? id = some d) (hform : d.form = .elementary e)
    (hfails : s.elementaryTarget id e = some (.error ⟨cause, e.name, d.span⟩)) :
    Terminal s id (.error ⟨cause, e.name, d.span⟩)

namespace Terminal

variable {outcome outcome' : Except Failure Target}

theorem exists_form (h : Terminal s id outcome) :
    ∃ d, s.dataType? id = some d ∧ ∀ t, d.form ≠ .alias t := by
  cases h with
  | object hd hform | elementary hd hform | failing hd hform => exact ⟨_, hd, by simp [hform]⟩

theorem alias?_eq_none (h : Terminal s id outcome) : s.alias? id = none := by
  obtain ⟨d, hd, hform⟩ := h.exists_form
  rw [Option.eq_none_iff_forall_ne_some]
  intro t ht
  obtain ⟨d', hd', hform'⟩ := alias?_eq_some.1 ht
  obtain rfl : d = d' := Option.some.inj (hd.symm.trans hd')
  exact hform t hform'

theorem aliased?_eq_none (h : Terminal s id outcome) : s.aliased? id = none := by
  simp [aliased?, h.alias?_eq_none]

theorem unique (h : Terminal s id outcome) (h' : Terminal s id outcome') : outcome = outcome' := by
  cases h with
  | object hd hform | elementary hd hform ht | failing hd hform ht =>
    cases h' with
    | object hd' hform' | elementary hd' hform' ht' | failing hd' hform' ht' =>
      obtain rfl := Option.some.inj (hd.symm.trans hd')
      simp_all

end Terminal

theorem Closed.exists_terminal (h : s.Closed) (hid : id ∈ s.dataTypeIds)
    (hend : s.aliased? id = none) : ∃ outcome, Terminal s id outcome := by
  obtain ⟨d, hd⟩ := mem_dataTypeIds.1 hid
  match hform : d.form with
  | .object c => exact ⟨_, .object hd hform⟩
  | .elementary e =>
    rcases h.elementaryTarget hd hform with ⟨-, target, ht⟩ | ⟨-, cause, ht⟩
    · exact ⟨_, .elementary hd hform ht⟩
    · exact ⟨_, .failing hd hform ht⟩
  | .alias t =>
    obtain ⟨y, hy⟩ := h.aliased? (alias?_eq_some.2 ⟨d, hd, hform⟩)
    simp [hend] at hy

/-! ## The answer -/

/-- The answer for a data type: the target at the end of the typedefs or the failure there,
and for typedefs without an end the failure of the first data type that is visited twice. -/
inductive Answers (s : Schema) (id : DataTypeId) : Except Failure Descriptor → Prop
  | resolved {xs : List DataTypeId} {z : DataTypeId} {target : Target}
    (way : Path s.aliased? id xs z) (ending : Terminal s z (.ok target)) :
    Answers s id (.ok ⟨id, s.alias? id, target⟩)
  | failed {xs : List DataTypeId} {z : DataTypeId} {failure : Failure}
    (way : Path s.aliased? id xs z) (ending : Terminal s z (.error failure)) :
    Answers s id (.error failure)
  | circular {xs : List DataTypeId} {z : DataTypeId} {t : TypedefId} {d : TypedefDecl}
    {name : String} (way : Path s.aliased? id xs z) (fresh : xs.Nodup) (again : z ∈ xs)
    (ht : s.alias? z = some t) (hd : s.typedef? t = some d) (hname : s.typedefName t = some name) :
    Answers s id (.error ⟨.recursiveTypedef, name, d.span⟩)

namespace Answers

variable {answer answer' : Except Failure Descriptor}

theorem unique (h : Answers s id answer) (h' : Answers s id answer') : answer = answer' := by
  cases h with
  | resolved way ending | failed way ending =>
    cases h' with
    | resolved way' ending' | failed way' ending' =>
      obtain ⟨-, rfl⟩ :=
        way.end_unique ending.aliased?_eq_none way' ending'.aliased?_eq_none
      have := ending.unique ending'
      simp_all
    | circular way' _ again =>
      exact (way.no_return_of_end ending.aliased?_eq_none way' again).elim
  | circular way fresh again ht hd hname =>
    cases h' with
    | resolved way' ending' | failed way' ending' =>
      exact (way'.no_return_of_end ending'.aliased?_eq_none way again).elim
    | circular way' fresh' again' ht' hd' hname' =>
      obtain ⟨-, rfl⟩ := way.return_unique fresh again way' fresh' again'
      simp_all

/-- On the way to a target every data type has that target. -/
theorem of_path {d : Descriptor} (h : Answers s id (.ok d)) {xs : List DataTypeId}
    (hpath : Path s.aliased? id xs y) : Answers s y (.ok ⟨y, s.alias? y, d.target⟩) := by
  cases h with
  | resolved way ending =>
    obtain ⟨zs, -, hzs⟩ := way.to_end ending.aliased?_eq_none hpath
    exact .resolved hzs ending

theorem mem_dataTypeIds (h : Answers s id answer) : id ∈ s.dataTypeIds := by
  have hway : ∀ {xs z}, Path s.aliased? id xs z → z ∈ s.dataTypeIds → id ∈ s.dataTypeIds := by
    intro xs z way hz
    cases way with
    | here => exact hz
    | step link _ => exact mem_dataTypeIds_of_aliased? link
  cases h with
  | resolved way ending | failed way ending =>
    obtain ⟨d, hd, -⟩ := ending.exists_form
    exact hway way (Schema.mem_dataTypeIds.2 ⟨d, hd⟩)
  | circular way _ _ ht =>
    obtain ⟨d, hd, -⟩ := alias?_eq_some.1 ht
    exact hway way (Schema.mem_dataTypeIds.2 ⟨d, hd⟩)

end Answers

/-- Every data type of a closed schema has an answer. -/
theorem Closed.exists_answer (h : s.Closed) (hid : id ∈ s.dataTypeIds) :
    ∃ answer, Answers s id answer := by
  rcases exists_end_or_return (fun _ _ => mem_dataTypeIds_of_aliased?) id with
    ⟨xs, z, way, hend⟩ | ⟨xs, z, way, fresh, again⟩
  · obtain ⟨outcome, ending⟩ := h.exists_terminal (h.mem_dataTypeIds_of_path hid way) hend
    cases outcome with
    | ok target => exact ⟨_, .resolved way ending⟩
    | error failure => exact ⟨_, .failed way ending⟩
  · obtain ⟨y, hlink⟩ := way.link_of_mem again
    obtain ⟨t, td, ht, htd, -⟩ := aliased?_eq_some.1 hlink
    obtain ⟨name, hname⟩ := h.typedefName htd
    exact ⟨_, .circular way fresh again ht htd hname⟩

end SchemaTypes.Schema
