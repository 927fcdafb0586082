/-
Schemas in which one elementary type has got another name.

Nothing but the data type itself is changed (and the table of names, which gets
the new one). What calls to a draft have built can be built with the new name
as well: the call that declares the data type is made with it, and all other
calls stay as they are (`Draft.exists_respelled`). So a respelled schema is
well-formed if the schema was.
-/
import SchemaTypes.Proofs.WellFormed

namespace SchemaTypes

/-! ## The other name -/

def Elementary.respell (name : String) (e : Elementary) : Elementary :=
  { e with name }

def TypeForm.respell (name : String) : TypeForm → TypeForm
  | .elementary e => .elementary (e.respell name)
  | .object c => .object c
  | .alias t => .alias t

def DataType.respell (name : String) (d : DataType) : DataType :=
  { d with form := d.form.respell name }

theorem DataType.form_respell {d : DataType} {e : Elementary} (h : d.form = .elementary e)
    (name : String) : (d.respell name).form = .elementary (e.respell name) := by
  rw [DataType.respell, h, TypeForm.respell]

/-- The schema with another name for the elementary type at a data type. -/
def Schema.respell (s : Schema) (x : DataTypeId) (name : String) : Schema :=
  { s with
    names := s.names.insert name
    dataTypes := s.dataTypes.modify x.index (·.respell name) }

namespace Draft

variable {d : Draft} {x : DataTypeId} {name : String}

def respell (d : Draft) (x : DataTypeId) (name : String) : Draft :=
  { d with dataTypes := d.dataTypes.modify x.index (·.respell name) }

theorem issued_respell (n : Node) : (d.respell x name).issued n = d.issued n := by
  cases n with
  | package | classDecl | field | typedef | enumDecl => rfl
  | dataType => simp [issued, respell]

/-! ## Tables that grow and change -/

/-- A change reaches the new entry only if it is at the end. -/
theorem modify_push {α : Type} (xs : Array α) (y : α) (g : α → α) (i : Nat) :
    (xs.push y).modify i g = (xs.modify i g).push (if i = xs.size then g y else y) := by
  refine Array.ext_getElem? fun j => ?_
  simp only [Array.getElem?_modify, Array.getElem?_push, Array.size_modify]
  split <;> split <;> simp_all

theorem modify_comm {α : Type} {f g : α → α} (hfg : ∀ a, f (g a) = g (f a)) (xs : Array α)
    (i j : Nat) : (xs.modify i f).modify j g = (xs.modify j g).modify i f := by
  refine Array.ext_getElem? fun k => ?_
  simp only [Array.getElem?_modify]
  split <;> split <;> simp [Function.comp_def, hfg]

/-! ## Calls with the other name -/

theorem exists_pushed_form (d : Draft) (x : DataTypeId) (name : String) (form : TypeForm)
    (owner : TypeOwner) : ∃ form',
      (d.dataTypes.modify x.index (·.respell name)).push { form := form', owner } =
        (d.dataTypes.push { form, owner }).modify x.index (·.respell name) := by
  refine ⟨if x.index = d.dataTypes.size then form.respell name else form, ?_⟩
  rw [modify_push]
  split <;> rfl

/-- Every call can be made so that it declares the other name. -/
theorem exists_respelled_call (d : Draft) (x : DataTypeId) (name : String) (c : Call) :
    ∃ c', c'.target? = c.target? ∧
      (d.respell x name).perform c' = (d.perform c).respell x name := by
  cases c with
  | addName | addPackage | addClass | addTypedef | setPackageDefaults | setParent | setFinal
  | setClassDefaults | setRequired => exact ⟨_, rfl, rfl⟩
  | addEnum package name values =>
    refine ⟨.addEnum package name values, rfl, ?_⟩
    simp only [perform, addEnum, foldl_addName]
    rfl
  | addField owner field form =>
    obtain ⟨form', hform⟩ := exists_pushed_form d x name form (.field ⟨d.fields.size⟩)
    refine ⟨.addField owner field form', rfl, ?_⟩
    simp [perform, addField, addDataType, addName, respell, hform]
  | define t form =>
    obtain ⟨form', hform⟩ := exists_pushed_form d x name form (.typedef t)
    refine ⟨.define t form', rfl, ?_⟩
    simp only [perform, define, addDataType, respell, hform, Array.size_modify]
    split
    · rfl
    · split <;> rfl
  | setSpan node span =>
    refine ⟨.setSpan node span, rfl, ?_⟩
    cases node with
    | package | classDecl | field | typedef | enumDecl => rfl
    | dataType n =>
      have hcomm := modify_comm (f := DataType.respell name) (g := fun t => { t with span })
        (fun _ => rfl) d.dataTypes x.index n.index
      simp only [perform, setSpan, respell, hcomm]

/-- The draft that calls have built, with the other name, is built by calls, too. -/
theorem exists_respelled (x : DataTypeId) (name : String) {calls : List Call} {d : Draft}
    (h : empty.replay calls = some d) :
    ∃ calls', empty.replay calls' = some (d.respell x name) := by
  refine replay_invariant (P := fun d => ∃ calls', empty.replay calls' = some (d.respell x name))
    ⟨[], by simp [replay, respell, empty]⟩ (fun d c hd hc => ?_) h
  obtain ⟨calls', hcalls'⟩ := hd
  obtain ⟨c', htarget, hperform⟩ := exists_respelled_call d x name c
  refine ⟨calls' ++ [c'], ?_⟩
  rw [replay_concat, hcalls', Option.bind_some, call?_eq_some]
  refine ⟨fun n hn => ?_, hperform.symm⟩
  rw [issued_respell]
  exact hc n (htarget ▸ hn)

end Draft

namespace Schema

variable {s : Schema}

theorem has_respell (s : Schema) (x : DataTypeId) (name : String) (n : Node) :
    (s.respell x name).has n = s.has n := by
  cases n with
  | package | classDecl | field | typedef | enumDecl => rfl
  | dataType => simp [has, respell]

theorem handles_respell (s : Schema) (x : DataTypeId) (name : String) :
    (s.respell x name).handles = s.handles := by
  have hdataType (d : DataType) : (d.respell name).handles = d.handles := by
    cases hform : d.form <;>
      simp [DataType.handles, DataType.respell, TypeForm.respell, TypeForm.handles, hform,
        Elementary.respell]
  simp only [handles, respell, List.flatMap_def, map_toList_modify hdataType]

/-- **A schema with another type name is well-formed again.** -/
theorem WellFormed.respell (h : s.WellFormed) (x : DataTypeId) (name : String) :
    (s.respell x name).WellFormed := by
  refine ⟨?_, ?_⟩
  · obtain ⟨calls, d, hcalls, hfinish⟩ := h.drafted
    obtain ⟨calls', hcalls'⟩ := Draft.exists_respelled x name hcalls
    refine ⟨calls' ++ [.addName name], (d.respell x name).addName name, ?_, ?_⟩
    · rw [Draft.replay_concat, hcalls', Option.bind_some, Draft.call?_eq_some]
      exact ⟨by simp [Draft.Call.target?], rfl⟩
    · rw [finish_eq_ok_iff] at hfinish ⊢
      obtain ⟨hnone, htypedefs, heq⟩ := hfinish
      refine ⟨hnone, htypedefs, ?_⟩
      rw [heq]
      rfl
  · intro n hn
    rw [handles_respell] at hn
    rw [has_respell]
    exact h.closed n hn

end Schema

end SchemaTypes
