/-
Drafts in which no handle dangles.

A call whose handles the draft has issued, both the one that it works on and
those that it stores, leaves the draft closed (`Closed.perform`), and so does
any history of such calls. What such a draft is finished into is a well-formed
schema (`Grown.wellFormed`).
-/
import SchemaTypes.Proofs.WellFormed

namespace SchemaTypes

def DraftTypedef.handles (t : DraftTypedef) : List Node :=
  (t.dataType.map .dataType).toList ++ (t.package.map .package).toList

/-- What holds of every entry of a table and is kept by a change holds after it. -/
theorem forall_mem_modify {α : Type} {P : α → Prop} {xs : Array α} (h : ∀ x ∈ xs, P x) (i : Nat)
    {g : α → α} (hg : ∀ x, P x → P (g x)) : ∀ x ∈ xs.modify i g, P x := by
  intro x hx
  obtain ⟨j, hj⟩ := Array.mem_iff_getElem?.1 hx
  rw [Array.getElem?_modify] at hj
  split at hj
  · obtain ⟨y, hy, rfl⟩ := Option.map_eq_some_iff.1 hj
    exact hg y (h y (Array.mem_of_getElem? hy))
  · exact h x (Array.mem_of_getElem? hj)

namespace Draft

/-- No handle that stands in a declaration of the draft dangles. -/
structure Closed (d : Draft) : Prop where
  classes : ∀ c ∈ d.classes, ∀ n ∈ c.handles, d.issued n
  fields : ∀ f ∈ d.fields, ∀ n ∈ f.handles, d.issued n
  typedefs : ∀ t ∈ d.typedefs, ∀ n ∈ t.handles, d.issued n
  enums : ∀ e ∈ d.enums, ∀ n ∈ e.handles, d.issued n
  dataTypes : ∀ x ∈ d.dataTypes, ∀ n ∈ x.handles, d.issued n

theorem Closed.empty : Closed .empty where
  classes := by simp [Draft.empty]
  fields := by simp [Draft.empty]
  typedefs := by simp [Draft.empty]
  enums := by simp [Draft.empty]
  dataTypes := by simp [Draft.empty]

/-- The handles that a call puts into a declaration without looking at them. -/
def Call.stored : Call → List Node
  | .addClass package _ | .addTypedef package _ => (package.map .package).toList
  | .addEnum package _ _ => [.package package]
  | .addField _ _ form | .define _ form => form.handles
  | .setParent _ parent => [.classDecl parent]
  | _ => []

/-! ## Handles once issued stay issued -/

/-- Every table of a draft is at most as long as that of another one. -/
structure Within (d d' : Draft) : Prop where
  packages : d.packages.size ≤ d'.packages.size
  classes : d.classes.size ≤ d'.classes.size
  fields : d.fields.size ≤ d'.fields.size
  typedefs : d.typedefs.size ≤ d'.typedefs.size
  enums : d.enums.size ≤ d'.enums.size
  dataTypes : d.dataTypes.size ≤ d'.dataTypes.size

theorem Within.issued {d d' : Draft} (h : d.Within d') {n : Node} (hn : d.issued n) :
    d'.issued n := by
  have := h.packages
  have := h.classes
  have := h.fields
  have := h.typedefs
  have := h.enums
  have := h.dataTypes
  cases n <;> simp only [Draft.issued, decide_eq_true_eq] at hn ⊢ <;> omega

theorem within_setSpan (d : Draft) (node : Node) (span : Span) :
    d.Within (d.setSpan node span) := by
  cases node <;> constructor <;> simp [setSpan]

theorem within_define (d : Draft) (t : TypedefId) (form : TypeForm) :
    d.Within (d.define t form).2 := by
  simp only [define, addDataType]
  split
  · constructor <;> simp
  · split <;> constructor <;> simp

theorem within_perform (d : Draft) (c : Call) : d.Within (d.perform c) := by
  cases c with
  | setSpan node span => exact within_setSpan d node span
  | define t form => exact within_define d t form
  | addEnum package name values =>
    simp only [perform, addEnum, foldl_addName]
    constructor <;> simp [addName]
  | addName | addPackage | addClass | addTypedef | addField | setPackageDefaults | setParent
  | setFinal | setClassDefaults | setRequired =>
    constructor <;> simp [perform, addName, addPackage, addClass, addTypedef, addField, addDataType,
      setPackageDefaults, setParent, setFinal, setClassDefaults, setRequired]

theorem issued_perform {d : Draft} {n : Node} (hn : d.issued n) (c : Call) :
    (d.perform c).issued n :=
  (within_perform d c).issued hn

/-! ## Calls with issued handles -/

namespace Closed

variable {d : Draft} {c : Call}

/-- What was closed before a call is closed after it, as far as the tables are the same. -/
theorem keep {α : Type} {xs : Array α} {handles : α → List Node}
    (h : ∀ x ∈ xs, ∀ n ∈ handles x, d.issued n) (c : Call) :
    ∀ x ∈ xs, ∀ n ∈ handles x, (d.perform c).issued n :=
  fun x hx n hn => issued_perform (h x hx n hn) c

theorem keep_modify {α : Type} {xs : Array α} {handles : α → List Node}
    (h : ∀ x ∈ xs, ∀ n ∈ handles x, d.issued n) (c : Call) (i : Nat) (g : α → α)
    (hg : ∀ x, handles (g x) = handles x) :
    ∀ x ∈ xs.modify i g, ∀ n ∈ handles x, (d.perform c).issued n :=
  forall_mem_modify (keep h c) i fun x hx => by rwa [hg]

theorem perform_addField (h : d.Closed) {owner : ClassId} {name : String} {form : TypeForm}
    (howner : d.issued (.classDecl owner)) (hform : ∀ n ∈ form.handles, d.issued n) :
    (d.perform (.addField owner name form)).Closed := by
  set c := Call.addField owner name form with hc
  have hfield : (d.perform c).issued (.field ⟨d.fields.size⟩) := by
    simp [hc, perform, addField, addDataType, issued]
  have hdataType : (d.perform c).issued (.dataType ⟨d.dataTypes.size⟩) := by
    simp [hc, perform, addField, addDataType, addName, issued]
  have hlisted : ∀ x ∈ d.classes.modify owner.index fun k =>
      { k with fields := k.fields.push ⟨d.fields.size⟩ }, ∀ n ∈ x.handles,
      (d.perform c).issued n := by
    refine forall_mem_modify (keep h.classes c) _ fun x hx n hn => ?_
    simp only [ClassDecl.handles, Array.toList_push, List.map_append, List.mem_append] at hn hx
    rcases hn with hn | hn | hn
    · exact hx n (.inl hn)
    · exact hx n (.inr hn)
    · obtain rfl : n = .field ⟨d.fields.size⟩ := by simpa using hn
      exact hfield
  refine ⟨hlisted, ?_, keep h.typedefs c, keep h.enums c, ?_⟩
  · refine Array.forall_mem_push.2 ⟨fun n hn => ?_, keep h.fields c⟩
    simp only [FieldDecl.handles, List.mem_cons, List.not_mem_nil, or_false] at hn
    rcases hn with rfl | rfl
    · exact issued_perform howner c
    · exact hdataType
  · refine Array.forall_mem_push.2 ⟨fun n hn => ?_, keep h.dataTypes c⟩
    simp only [DataType.handles, TypeOwner.node, List.mem_cons] at hn
    rcases hn with rfl | hn
    · exact hfield
    · exact issued_perform (hform n hn) c

/-- A definition adds a data type that the typedef owns and may point to. -/
theorem perform_define (h : d.Closed) {t : TypedefId} {form : TypeForm}
    (ht : d.issued (.typedef t)) (hform : ∀ n ∈ form.handles, d.issued n) :
    (d.perform (.define t form)).Closed := by
  set c := Call.define t form with hc
  have hdataType : (d.perform c).issued (.dataType ⟨d.dataTypes.size⟩) := by
    simp only [hc, perform, define, addDataType]
    split
    · simp [issued]
    · split <;> simp [issued]
  have hnew : ∀ x ∈ d.dataTypes.push { form, owner := .typedef t }, ∀ n ∈ x.handles,
      (d.perform c).issued n := by
    refine Array.forall_mem_push.2 ⟨fun n hn => ?_, keep h.dataTypes c⟩
    simp only [DataType.handles, TypeOwner.node, List.mem_cons] at hn
    rcases hn with rfl | hn
    · exact issued_perform ht c
    · exact issued_perform (hform n hn) c
  have hpointing : ∀ x ∈ d.typedefs.modify t.index fun p =>
      { p with dataType := some ⟨d.dataTypes.size⟩ }, ∀ n ∈ x.handles,
      (d.perform c).issued n := by
    refine forall_mem_modify (keep h.typedefs c) _ fun x hx n hn => ?_
    simp only [DraftTypedef.handles, List.mem_append] at hn hx
    rcases hn with hn | hn
    · obtain rfl : n = .dataType ⟨d.dataTypes.size⟩ := by simpa using hn
      exact hdataType
    · exact hx n (.inr hn)
  -- The definition may be the first one of the typedef, another one or one of nothing.
  have hresult : (d.perform c).classes = d.classes ∧ (d.perform c).fields = d.fields ∧
      (d.perform c).enums = d.enums ∧
      (d.perform c).dataTypes = d.dataTypes.push { form, owner := .typedef t } ∧
      ((d.perform c).typedefs = d.typedefs ∨
        (d.perform c).typedefs = d.typedefs.modify t.index fun p =>
          { p with dataType := some ⟨d.dataTypes.size⟩ }) := by
    simp only [hc, perform, define, addDataType]
    split
    · simp
    · split <;> simp
  obtain ⟨hclasses, hfields, henums, hdataTypes, htypedefs⟩ := hresult
  refine ⟨hclasses ▸ keep h.classes c, hfields ▸ keep h.fields c, ?_, henums ▸ keep h.enums c,
    hdataTypes ▸ hnew⟩
  rcases htypedefs with htypedefs | htypedefs
  · exact htypedefs ▸ keep h.typedefs c
  · exact htypedefs ▸ hpointing

/-- A call with handles that the draft has issued leaves no handle dangling. -/
theorem perform (h : d.Closed) (htarget : ∀ n ∈ c.target?, d.issued n)
    (hstored : ∀ n ∈ c.stored, d.issued n) : (d.perform c).Closed := by
  cases c with
  | addName | addPackage | setPackageDefaults =>
    exact ⟨keep h.classes _, keep h.fields _, keep h.typedefs _, keep h.enums _,
      keep h.dataTypes _⟩
  | addClass package name =>
    refine ⟨Array.forall_mem_push.2 ⟨fun n hn => ?_, keep h.classes _⟩, keep h.fields _,
      keep h.typedefs _, keep h.enums _, keep h.dataTypes _⟩
    exact issued_perform (hstored n (by simpa [ClassDecl.handles, Call.stored] using hn)) _
  | addTypedef package name =>
    refine ⟨keep h.classes _, keep h.fields _,
      Array.forall_mem_push.2 ⟨fun n hn => ?_, keep h.typedefs _⟩, keep h.enums _,
      keep h.dataTypes _⟩
    exact issued_perform (hstored n (by simpa [DraftTypedef.handles, Call.stored] using hn)) _
  | addEnum package name values =>
    have hresult : d.perform (.addEnum package name values) =
        { d with
          names := (values.foldl NameTable.insert d.names).insert name
          enums := d.enums.push { name, package := some package, values } } := by
      simp [Draft.perform, addEnum, foldl_addName, addName]
    have hkeep {α : Type} {xs : Array α} {handles : α → List Node}
        (h : ∀ x ∈ xs, ∀ n ∈ handles x, d.issued n) := keep h (.addEnum package name values)
    rw [hresult] at hkeep ⊢
    refine ⟨hkeep h.classes, hkeep h.fields, hkeep h.typedefs,
      Array.forall_mem_push.2 ⟨fun n hn => ?_, hkeep h.enums⟩, hkeep h.dataTypes⟩
    rw [← hresult]
    exact issued_perform (hstored n (by simpa [EnumDecl.handles, Call.stored] using hn)) _
  | addField owner name form => exact h.perform_addField (htarget _ rfl) hstored
  | define t form => exact h.perform_define (htarget _ rfl) hstored
  | setParent c parent =>
    have hclasses : ∀ x ∈ d.classes.modify c.index fun k => { k with parent := some parent },
        ∀ n ∈ x.handles, (d.perform (.setParent c parent)).issued n := by
      refine forall_mem_modify (keep h.classes _) _ fun x hx n hn => ?_
      simp only [ClassDecl.handles, List.mem_append] at hn hx
      rcases hn with (hn | hn) | hn
      · exact hx n (.inl (.inl hn))
      · obtain rfl : n = .classDecl parent := by simpa using hn
        exact issued_perform (hstored _ List.mem_cons_self) _
      · exact hx n (.inr hn)
    exact ⟨hclasses, keep h.fields _, keep h.typedefs _, keep h.enums _, keep h.dataTypes _⟩
  | setFinal c isFinal =>
    exact ⟨keep_modify h.classes _ c.index (fun k => { k with isFinal }) fun _ => rfl,
      keep h.fields _, keep h.typedefs _, keep h.enums _, keep h.dataTypes _⟩
  | setClassDefaults c defaults =>
    exact ⟨keep_modify h.classes _ c.index (fun k => { k with defaults := some defaults })
      fun _ => rfl, keep h.fields _, keep h.typedefs _, keep h.enums _, keep h.dataTypes _⟩
  | setRequired f marker =>
    exact ⟨keep h.classes _, keep_modify h.fields _ f.index
      (fun x => { x with required := some marker }) fun _ => rfl, keep h.typedefs _,
      keep h.enums _, keep h.dataTypes _⟩
  | setSpan node span =>
    cases node with
    | package =>
      exact ⟨keep h.classes _, keep h.fields _, keep h.typedefs _, keep h.enums _,
        keep h.dataTypes _⟩
    | classDecl c =>
      exact ⟨keep_modify h.classes _ c.index (fun x => { x with span }) fun _ => rfl,
        keep h.fields _, keep h.typedefs _, keep h.enums _, keep h.dataTypes _⟩
    | field f =>
      exact ⟨keep h.classes _, keep_modify h.fields _ f.index (fun x => { x with span })
        fun _ => rfl, keep h.typedefs _, keep h.enums _, keep h.dataTypes _⟩
    | typedef t =>
      exact ⟨keep h.classes _, keep h.fields _, keep_modify h.typedefs _ t.index
        (fun x => { x with span }) fun _ => rfl, keep h.enums _, keep h.dataTypes _⟩
    | enumDecl e =>
      exact ⟨keep h.classes _, keep h.fields _, keep h.typedefs _, keep_modify h.enums _ e.index
        (fun x => { x with span }) fun _ => rfl, keep h.dataTypes _⟩
    | dataType x =>
      exact ⟨keep h.classes _, keep h.fields _, keep h.typedefs _, keep h.enums _,
        keep_modify h.dataTypes _ x.index (fun x => { x with span }) fun _ => rfl⟩

end Closed

/-! ## Histories of such calls -/

/-- A draft that calls have built, with all handles in it issued. -/
structure Grown (d : Draft) : Prop where
  drafted : ∃ calls, Draft.empty.replay calls = some d
  closed : d.Closed

namespace Grown

variable {d : Draft}

theorem empty : Grown .empty :=
  ⟨⟨[], rfl⟩, .empty⟩

theorem perform (h : d.Grown) {c : Call} (htarget : ∀ n ∈ c.target?, d.issued n)
    (hstored : ∀ n ∈ c.stored, d.issued n) : (d.perform c).Grown := by
  obtain ⟨calls, hcalls⟩ := h.drafted
  refine ⟨⟨calls ++ [c], ?_⟩, h.closed.perform htarget hstored⟩
  rw [replay_concat, hcalls]
  exact call?_eq_some.2 ⟨htarget, rfl⟩

/-- A draft that has grown so is finished into a well-formed schema. -/
theorem wellFormed (h : d.Grown) {s : Schema} (hs : d.finish = .ok s) : s.WellFormed := by
  obtain ⟨calls, hcalls⟩ := h.drafted
  refine ⟨⟨calls, d, hcalls, hs⟩, ?_⟩
  obtain ⟨-, htypedefs, heq⟩ := Schema.finish_eq_ok_iff.1 hs
  have hhas : ∀ n, d.issued n → s.has n := by
    intro n hn
    have hsize : s.typedefs.size = d.typedefs.size := by simp [htypedefs]
    rw [heq]
    cases n <;> simpa [Schema.has, issued, hsize] using hn
  have htypedef : ∀ t ∈ s.typedefs, ∀ n ∈ t.handles, d.issued n := by
    intro t ht n hn
    refine h.closed.typedefs (unfinished t) ?_ n ?_
    · rw [htypedefs]
      exact Array.mem_map_of_mem ht
    · simpa [DraftTypedef.handles, TypedefDecl.handles, unfinished] using hn
  intro n hn
  refine hhas n ?_
  simp only [Schema.handles, List.mem_append, List.mem_flatMap, Array.mem_toList_iff] at hn
  rcases hn with (((⟨x, hx, hn⟩ | ⟨x, hx, hn⟩) | ⟨x, hx, hn⟩) | ⟨x, hx, hn⟩) | ⟨x, hx, hn⟩
  · exact h.closed.classes x (by rw [heq] at hx; exact hx) n hn
  · exact h.closed.fields x (by rw [heq] at hx; exact hx) n hn
  · exact htypedef x hx n hn
  · exact h.closed.enums x (by rw [heq] at hx; exact hx) n hn
  · exact h.closed.dataTypes x (by rw [heq] at hx; exact hx) n hn

end Grown

end Draft

end SchemaTypes
