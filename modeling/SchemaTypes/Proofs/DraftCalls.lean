/-
The histories of a draft: the calls that build it, one after the other, and
what holds of every draft that calls have built.

A call that works on a node needs a handle that the draft has issued; without
one there is no draft afterwards. Handles that a call only stores (the package
of a class, the inside of a data type) are not looked at here, so a history
may store one before it is issued. That none of them dangles in the end is
`Schema.Closed`, over the finished schema.
-/
import SchemaTypes.Schema.Draft
import Mathlib.Data.List.Induction

namespace SchemaTypes

/-- A call to a draft. -/
inductive Draft.Call where
  | addName (name : String)
  | addPackage (name : String)
  | addClass (package : Option PackageId) (name : String)
  | addTypedef (package : Option PackageId) (name : String)
  | addEnum (package : PackageId) (name : String) (values : List String)
  | addField (owner : ClassId) (name : String) (form : TypeForm)
  | define (t : TypedefId) (form : TypeForm)
  | setPackageDefaults (p : PackageId) (defaults : Defaults)
  | setParent (c parent : ClassId)
  | setFinal (c : ClassId) (isFinal : Bool)
  | setClassDefaults (c : ClassId) (defaults : Defaults)
  | setRequired (f : FieldId) (marker : Required)
  | setSpan (node : Node) (span : Span)
deriving DecidableEq, Repr

namespace Draft

/-- The node that a call works on; nothing for one that only declares. -/
def Call.target? : Call → Option Node
  | .addName _ | .addPackage _ | .addClass _ _ | .addTypedef _ _ | .addEnum _ _ _ => none
  | .addField owner _ _ => some (.classDecl owner)
  | .define t _ => some (.typedef t)
  | .setPackageDefaults p _ => some (.package p)
  | .setParent c _ | .setFinal c _ | .setClassDefaults c _ => some (.classDecl c)
  | .setRequired f _ => some (.field f)
  | .setSpan node _ => some node

/-- The draft after a call, whatever the call works on. -/
def perform (d : Draft) : Call → Draft
  | .addName name => d.addName name
  | .addPackage name => (d.addPackage name).2
  | .addClass package name => (d.addClass package name).2
  | .addTypedef package name => (d.addTypedef package name).2
  | .addEnum package name values => (d.addEnum package name values).2
  | .addField owner name form => (d.addField owner name form).2
  | .define t form => (d.define t form).2
  | .setPackageDefaults p defaults => d.setPackageDefaults p defaults
  | .setParent c parent => d.setParent c parent
  | .setFinal c isFinal => d.setFinal c isFinal
  | .setClassDefaults c defaults => d.setClassDefaults c defaults
  | .setRequired f marker => d.setRequired f marker
  | .setSpan node span => d.setSpan node span

/-- The draft after a call, if the draft has issued the handle that the call works on. -/
def call? (d : Draft) (c : Call) : Option Draft :=
  if c.target?.all d.issued then some (d.perform c) else none

/-- The draft after several calls. -/
def replay (d : Draft) (calls : List Call) : Option Draft :=
  calls.foldlM call? d

theorem call?_eq_some {d d' : Draft} {c : Call} :
    d.call? c = some d' ↔ (∀ n ∈ c.target?, d.issued n) ∧ d' = d.perform c := by
  have hall : c.target?.all d.issued = true ↔ ∀ n ∈ c.target?, d.issued n := by
    simp [Option.all_eq_true]
  unfold call?
  rw [← hall]
  split
  · next h => simp [h, eq_comm]
  · next h => simp [h]

theorem replay_concat (d : Draft) (calls : List Call) (c : Call) :
    d.replay (calls ++ [c]) = (d.replay calls).bind (·.call? c) := by
  simp [replay, List.foldlM_append]

/-- What holds of the empty draft without calls and is kept by every call holds of all drafts that
calls have built, with these calls. -/
theorem replay_induction {P : List Call → Draft → Prop} (hstart : P [] empty)
    (hcall : ∀ calls d c, P calls d → (∀ n ∈ c.target?, d.issued n) →
      P (calls ++ [c]) (d.perform c)) {calls : List Call} {d : Draft}
    (h : empty.replay calls = some d) : P calls d := by
  induction calls using List.reverseRecOn generalizing d with
  | nil =>
    obtain rfl : empty = d := Option.some.inj h
    exact hstart
  | append_singleton calls c ih =>
    rw [replay_concat] at h
    obtain ⟨before, hbefore, hlast⟩ := Option.bind_eq_some_iff.1 h
    obtain ⟨hissued, rfl⟩ := call?_eq_some.1 hlast
    exact hcall calls before c (ih hbefore) hissued

/-- The same for what does not depend on the calls. -/
theorem replay_invariant {P : Draft → Prop} (hstart : P empty)
    (hcall : ∀ d c, P d → (∀ n ∈ c.target?, d.issued n) → P (d.perform c)) {calls : List Call}
    {d : Draft} (h : empty.replay calls = some d) : P d :=
  replay_induction (P := fun _ => P) hstart (fun _ => hcall) h

end Draft

/-! ## The fields of a class -/

/-- The fields of each class are listed in the class, in the order of their handles: the list
says the same as the owners that the fields name. -/
def FieldsListed (classes : Array ClassDecl) (fields : Array FieldDecl) : Prop :=
  ∀ c decl, classes[c]? = some decl → decl.fields.toList =
    ((List.range fields.size).filter fun f => fields[f]?.map FieldDecl.owner = some ⟨c⟩).map .mk

/-- Only the lists of the classes and the owners of the fields matter. -/
theorem FieldsListed.congr {classes classes' : Array ClassDecl} {fields fields' : Array FieldDecl}
    (h : FieldsListed classes fields)
    (hclasses : ∀ c : Nat, classes'[c]?.map ClassDecl.fields = classes[c]?.map ClassDecl.fields)
    (hsize : fields'.size = fields.size)
    (hfields : ∀ f : Nat, fields'[f]?.map FieldDecl.owner = fields[f]?.map FieldDecl.owner) :
    FieldsListed classes' fields' := by
  intro c decl hdecl
  have hlist := hclasses c
  rw [hdecl, Option.map_some, eq_comm, Option.map_eq_some_iff] at hlist
  obtain ⟨decl', hdecl', heq⟩ := hlist
  simp only [hsize, hfields]
  rw [← heq]
  exact h c decl' hdecl'

theorem map_getElem?_modify {α β : Type} (xs : Array α) (i j : Nat) (g : α → α) (view : α → β)
    (hview : ∀ x, view (g x) = view x) : (xs.modify i g)[j]?.map view = xs[j]?.map view := by
  rw [Array.getElem?_modify]
  split
  · simp [Function.comp_def, hview]
  · rfl

theorem map_toList_modify {α β : Type} {view : α → β} {g : α → α}
    (hview : ∀ x, view (g x) = view x) (xs : Array α) (i : Nat) :
    (xs.modify i g).toList.map view = xs.toList.map view := by
  refine List.ext_getElem? fun j => ?_
  simp only [List.getElem?_map, Array.getElem?_toList]
  exact map_getElem?_modify xs i j g view hview

/-- What holds of one aspect of every entry of a table holds in each table that has the same. -/
theorem forall_mem_of_map_getElem? {α β : Type} {view : α → β} {P : β → Prop} {xs ys : Array α}
    (h : ∀ x ∈ xs, P (view x)) (hview : ∀ i : Nat, ys[i]?.map view = xs[i]?.map view) :
    ∀ y ∈ ys, P (view y) := by
  intro y hy
  obtain ⟨i, hi⟩ := Array.mem_iff_getElem?.1 hy
  have hsame := hview i
  rw [hi, Option.map_some, eq_comm, Option.map_eq_some_iff] at hsame
  obtain ⟨x, hx, heq⟩ := hsame
  exact heq ▸ h x (Array.mem_of_getElem? hx)

namespace FieldsListed

variable {classes : Array ClassDecl} {fields : Array FieldDecl}

theorem empty : FieldsListed #[] #[] := by
  intro c decl h
  simp at h

theorem push_class (h : FieldsListed classes fields)
    (howners : ∀ f ∈ fields, f.owner.index < classes.size) {decl : ClassDecl}
    (hempty : decl.fields = #[]) : FieldsListed (classes.push decl) fields := by
  intro c decl' hdecl'
  rw [Array.getElem?_push] at hdecl'
  split at hdecl'
  · next hc =>
    obtain rfl : decl = decl' := by simpa using hdecl'
    rw [hempty, eq_comm, List.map_eq_nil_iff, List.filter_eq_nil_iff]
    intro f _ hf
    simp only [decide_eq_true_eq, Option.map_eq_some_iff] at hf
    obtain ⟨fd, hfd, howner⟩ := hf
    have := howners fd (Array.mem_of_getElem? hfd)
    simp [howner, hc] at this
  · exact h c decl' hdecl'

theorem push_field (h : FieldsListed classes fields) (fd : FieldDecl) :
    FieldsListed
      (classes.modify fd.owner.index fun c => { c with fields := c.fields.push ⟨fields.size⟩ })
      (fields.push fd) := by
  intro c decl hdecl
  rw [Array.getElem?_modify] at hdecl
  have hold : ∀ f ∈ List.range fields.size, (fields.push fd)[f]? = fields[f]? := by
    intro f hf
    rw [Array.getElem?_push]
    have := List.mem_range.1 hf
    rw [if_neg (by omega)]
  have hfilter : ((List.range fields.size).filter fun f =>
      decide (((fields.push fd)[f]?.map FieldDecl.owner) = some ⟨c⟩)) =
      (List.range fields.size).filter fun f => decide (fields[f]?.map FieldDecl.owner = some ⟨c⟩) :=
    List.filter_congr fun f hf => by rw [hold f hf]
  rw [Array.size_push, List.range_succ, List.filter_append, hfilter, List.map_append]
  split at hdecl
  · next hc =>
    obtain ⟨old, hcls, rfl⟩ := Option.map_eq_some_iff.1 hdecl
    simp [h c old hcls, ← hc]
  · next hc =>
    have hc' : ¬fd.owner = ⟨c⟩ := fun e => hc (by rw [e])
    simp [h c decl hdecl, hc']

theorem mem_iff (h : FieldsListed classes fields) {c : ClassId} {decl : ClassDecl}
    (hdecl : classes[c.index]? = some decl) {f : FieldId} :
    f ∈ decl.fields ↔ ∃ fd, fields[f.index]? = some fd ∧ fd.owner = c := by
  obtain ⟨i⟩ := f
  rw [← Array.mem_toList_iff, h c.index decl hdecl]
  simp only [List.mem_map, List.mem_filter, List.mem_range, decide_eq_true_eq,
    Option.map_eq_some_iff, FieldId.mk.injEq, exists_eq_right]
  constructor
  · exact fun h => h.2
  · intro ⟨fd, hfd, howner⟩
    exact ⟨(Array.getElem?_eq_some_iff.1 hfd).1, fd, hfd, howner⟩

theorem increasing (h : FieldsListed classes fields) {c : Nat} {decl : ClassDecl}
    (hdecl : classes[c]? = some decl) :
    decl.fields.toList.Pairwise fun f g => f.index < g.index := by
  rw [h c decl hdecl, List.pairwise_map]
  exact List.pairwise_lt_range.filter _

theorem nodup (h : FieldsListed classes fields) {c : Nat} {decl : ClassDecl}
    (hdecl : classes[c]? = some decl) : decl.fields.toList.Nodup := by
  refine (h.increasing hdecl).imp fun hlt heq => ?_
  rw [heq] at hlt
  exact Nat.lt_irrefl _ hlt

end FieldsListed

namespace Draft

/-- What ties the classes of a draft to its fields. -/
structure Linked (d : Draft) : Prop where
  owners : ∀ f ∈ d.fields, f.owner.index < d.classes.size
  listed : FieldsListed d.classes d.fields

/-- A change of single records that leaves lists and owners as they are keeps the ties. -/
theorem Linked.congr {d d' : Draft} (h : d.Linked)
    (hclasses : ∀ c : Nat, d'.classes[c]?.map ClassDecl.fields = d.classes[c]?.map ClassDecl.fields)
    (hsize : d'.classes.size = d.classes.size) (hfsize : d'.fields.size = d.fields.size)
    (hfields : ∀ f : Nat, d'.fields[f]?.map FieldDecl.owner = d.fields[f]?.map FieldDecl.owner) :
    d'.Linked where
  owners := forall_mem_of_map_getElem? (P := fun c => c.index < d'.classes.size)
    (by rw [hsize]; exact h.owners) hfields
  listed := h.listed.congr hclasses hfsize hfields

theorem foldl_addName (d : Draft) (values : List String) :
    values.foldl addName d = { d with names := values.foldl NameTable.insert d.names } := by
  induction values generalizing d with
  | nil => rfl
  | cons v values ih => rw [List.foldl_cons, ih]; rfl

theorem Linked.perform {d : Draft} (h : d.Linked) {c : Call} (hc : ∀ n ∈ c.target?, d.issued n) :
    (d.perform c).Linked := by
  cases c with
  | addName | addPackage | addTypedef | setPackageDefaults => exact ⟨h.owners, h.listed⟩
  | addEnum package name values =>
    simp only [Draft.perform, addEnum, foldl_addName]
    exact ⟨h.owners, h.listed⟩
  | addClass package name =>
    refine ⟨fun f hf => ?_, h.listed.push_class h.owners rfl⟩
    have := h.owners f hf
    simp only [Draft.perform, addClass, Array.size_push]
    omega
  | addField owner name form =>
    have howner : owner.index < d.classes.size := by simpa [Call.target?, issued] using hc
    refine ⟨fun f hf => ?_, h.listed.push_field { name, owner, dataType := _ }⟩
    simp only [Draft.perform, addField, addDataType, addName, Array.size_modify] at hf ⊢
    rcases Array.mem_push.1 hf with hf | rfl
    · exact h.owners f hf
    · exact howner
  | define t form =>
    simp only [Draft.perform, define]
    split
    · exact ⟨h.owners, h.listed⟩
    · split <;> exact ⟨h.owners, h.listed⟩
  | setParent | setFinal | setClassDefaults =>
    refine h.congr (fun c => ?_) (Array.size_modify ..) rfl fun _ => rfl
    exact map_getElem?_modify _ _ _ _ _ fun _ => rfl
  | setRequired =>
    refine h.congr (fun _ => rfl) rfl (Array.size_modify ..) fun f => ?_
    exact map_getElem?_modify _ _ _ _ _ fun _ => rfl
  | setSpan node span =>
    cases node with
    | package | typedef | enumDecl | dataType => exact ⟨h.owners, h.listed⟩
    | classDecl =>
      refine h.congr (fun c => ?_) (Array.size_modify ..) rfl fun _ => rfl
      exact map_getElem?_modify _ _ _ _ _ fun _ => rfl
    | field =>
      refine h.congr (fun _ => rfl) rfl (Array.size_modify ..) fun f => ?_
      exact map_getElem?_modify _ _ _ _ _ fun _ => rfl

theorem linked_of_replay {calls : List Call} {d : Draft} (h : empty.replay calls = some d) :
    d.Linked :=
  replay_invariant ⟨by simp [empty], FieldsListed.empty⟩ (fun _ _ hd hc => hd.perform hc) h

end Draft

end SchemaTypes
