/-
The walk outward from a node: what contains it, what contains that, and so on.

`containers` lists, kind by kind, what such a walk passes, and it does so for
every node of every schema (`containers_eq_some_iff`). The defaults blocks
around a data type are the ones that the walk meets: the block of the first
class and that of the first package, where it ends
(`Cascade.ofDataType_eq_along`).
-/
import SchemaTypes.Proofs.WellFormed
import SchemaTypes.Resolution.Attributes
import SchemaTypes.Schema.Containment

namespace SchemaTypes

/-- The number of steps outward from a node is at most this. -/
def Node.depth : Node → Nat
  | .package _ => 0
  | .classDecl _ | .typedef _ | .enumDecl _ => 1
  | .field _ => 2
  | .dataType _ => 3

namespace Schema

/-- The containers of a node, each the one directly around the one before, out to one that
nothing contains. -/
inductive Outward (s : Schema) : Node → List Node → Prop
  | outermost {n : Node} (hn : s.container? n = some none) : Outward s n []
  | inside {n outer : Node} {ns : List Node} (hn : s.container? n = some (some outer))
    (rest : Outward s outer ns) : Outward s n (outer :: ns)

variable {s : Schema} {n outer : Node} {ns : List Node}

/-! ## Containers -/

theorem containers_of_packaged (package : Option PackageId)
    (hcontainers : s.containers n = some (aroundPackaged package))
    (hcontainer : s.container? n = some (package.map .package)) :
    s.containers n = (s.container? n).bind fun container => container.elim (some []) fun outer =>
      (s.containers outer).map (outer :: ·) := by
  rw [hcontainers, hcontainer]
  cases package <;> rfl

theorem containers_eq (s : Schema) (n : Node) :
    s.containers n = (s.container? n).bind fun container => container.elim (some []) fun outer =>
      (s.containers outer).map (outer :: ·) := by
  cases n with
  | package p => rfl
  | classDecl c =>
    cases h : s.class? c with
    | none => simp [containers, aroundClass, container?, h]
    | some d =>
      exact containers_of_packaged d.package (by simp [containers, aroundClass, h])
        (by simp [container?, h])
  | field f =>
    cases h : s.field? f with
    | none => simp [containers, aroundField, container?, h]
    | some d =>
      cases hc : s.aroundClass d.owner <;> simp [containers, aroundField, container?, h, hc]
  | typedef t =>
    cases h : s.typedef? t with
    | none => simp [containers, aroundTypedef, container?, h]
    | some d =>
      exact containers_of_packaged d.package (by simp [containers, aroundTypedef, h])
        (by simp [container?, h])
  | enumDecl e =>
    cases h : s.enum? e with
    | none => simp [containers, container?, h]
    | some d =>
      exact containers_of_packaged d.package (by simp [containers, h]) (by simp [container?, h])
  | dataType x =>
    cases h : s.dataType? x with
    | none => simp [containers, aroundDataType, container?, h]
    | some d => cases ho : d.owner <;> simp [containers, aroundDataType, container?, h, ho]

theorem containers_eq_some_iff : s.containers n = some ns ↔ s.Outward n ns := by
  constructor
  · intro h
    induction ns generalizing n with
    | nil =>
      rw [containers_eq, Option.bind_eq_some_iff] at h
      obtain ⟨container, hn, h⟩ := h
      cases container with
      | none => exact .outermost hn
      | some outer => simp at h
    | cons m ns ih =>
      rw [containers_eq, Option.bind_eq_some_iff] at h
      obtain ⟨container, hn, h⟩ := h
      cases container with
      | none => simp at h
      | some outer =>
        obtain ⟨rest, hrest, heq⟩ := Option.map_eq_some_iff.1 h
        obtain ⟨rfl, rfl⟩ := List.cons.inj heq
        exact .inside hn (ih hrest)
  · intro h
    induction h with
    | outermost hn => rw [containers_eq, hn, Option.bind_some, Option.elim_none]
    | inside hn _ ih =>
      rw [containers_eq, hn, Option.bind_some, Option.elim_some, ih, Option.map_some]

theorem Outward.unique {ns' : List Node} (h : s.Outward n ns) (h' : s.Outward n ns') : ns = ns' :=
  Option.some.inj ((containers_eq_some_iff.2 h).symm.trans (containers_eq_some_iff.2 h'))

/-! ## Closed schemas -/

theorem depth_lt_of_container? (h : s.container? n = some (some outer)) :
    outer.depth < n.depth := by
  cases n with
  | package p => simp [container?] at h
  | classDecl c | typedef t | enumDecl e =>
    simp only [container?, Option.map_eq_some_iff] at h
    obtain ⟨d, -, p, -, rfl⟩ := h
    simp [Node.depth]
  | field f =>
    obtain ⟨d, -, hd⟩ := Option.map_eq_some_iff.1 h
    obtain rfl := Option.some.inj hd
    simp [Node.depth]
  | dataType x =>
    obtain ⟨d, -, hd⟩ := Option.map_eq_some_iff.1 h
    obtain rfl := Option.some.inj hd
    cases d.owner <;> simp [Node.depth]

namespace Closed

theorem container_of_packaged (package : Option PackageId)
    (hcontainer : s.container? n = some (package.map .package))
    (hhas : ∀ p, package = some p → s.has (.package p)) :
    ∃ outer, s.container? n = some outer ∧ ∀ m ∈ outer, s.has m := by
  refine ⟨_, hcontainer, fun m hm => ?_⟩
  obtain ⟨p, hp, rfl⟩ := Option.map_eq_some_iff.1 hm
  exact hhas p hp

/-- What contains a node is there if the node is. -/
theorem container (h : s.Closed) (hn : s.has n) :
    ∃ outer, s.container? n = some outer ∧ ∀ m ∈ outer, s.has m := by
  cases n with
  | package p => exact ⟨none, rfl, by simp⟩
  | classDecl c =>
    obtain ⟨d, hd⟩ := exists_class hn
    refine container_of_packaged d.package (by simp [container?, hd]) fun p hp => ?_
    exact h.of_class hd (by simp [ClassDecl.handles, hp])
  | field f =>
    obtain ⟨d, hd⟩ := exists_field hn
    refine ⟨_, by rw [container?, hd]; rfl, fun m hm => ?_⟩
    obtain rfl := Option.some.inj hm
    exact h.of_field hd (by simp [FieldDecl.handles])
  | typedef t =>
    obtain ⟨d, hd⟩ := exists_typedef hn
    refine container_of_packaged d.package (by simp [container?, hd]) fun p hp => ?_
    exact h.of_typedef hd (by simp [TypedefDecl.handles, hp])
  | enumDecl e =>
    obtain ⟨d, hd⟩ := exists_enum hn
    refine container_of_packaged d.package (by simp [container?, hd]) fun p hp => ?_
    exact h.of_enum hd (by simp [EnumDecl.handles, hp])
  | dataType x =>
    obtain ⟨d, hd⟩ := exists_dataType hn
    refine ⟨_, by rw [container?, hd]; rfl, fun m hm => ?_⟩
    obtain rfl := Option.some.inj hm
    have howner := h.dataType_owner hd
    cases hform : d.owner <;> rw [hform] at howner <;> exact howner

/-- The walk ends, for every step leads to a kind of node further out. -/
theorem exists_outward (h : s.Closed) {n : Node} (hn : s.has n) :
    ∃ ns, s.Outward n ns ∧ ∀ m ∈ ns, s.has m := by
  obtain ⟨container, hcontainer, hhas⟩ := h.container hn
  cases container with
  | none => exact ⟨[], .outermost hcontainer, by simp⟩
  | some outer =>
    obtain ⟨ns, hns, hall⟩ := h.exists_outward (hhas outer rfl)
    exact ⟨outer :: ns, .inside hcontainer hns, List.forall_mem_cons.2 ⟨hhas outer rfl, hall⟩⟩
termination_by n.depth
decreasing_by exact depth_lt_of_container? hcontainer

end Closed

end Schema

/-! ## Defaults blocks -/

namespace Cascade

/-- The blocks that a walk meets, when a class with the block `seen` was passed before: that of
the first class, and that of the first package, with which it ends. -/
def along (s : Schema) (seen : Option (Option Defaults)) : List Node → Option (Option Cascade)
  | [] => some none
  | .package p :: _ => (s.package? p).map fun d => some ⟨seen.join, d.defaults⟩
  | .classDecl c :: rest => do
    let d ← s.class? c
    along s (seen.or (some d.defaults)) rest
  | _ :: rest => along s seen rest

variable {s : Schema}

theorem along_aroundPackaged (seen : Option (Option Defaults)) (package : Option PackageId) :
    along s seen (Schema.aroundPackaged package) = inside s seen.join package := by
  cases package <;> rfl

theorem ofDataType_eq_along (s : Schema) (id : DataTypeId) :
    ofDataType s id = (s.containers (.dataType id)).bind (along s none) := by
  cases hd : s.dataType? id with
  | none => simp [ofDataType, Schema.containers, Schema.aroundDataType, hd]
  | some d =>
    cases howner : d.owner with
    | field f =>
      cases hf : s.field? f with
      | none => simp [ofDataType, Schema.containers, Schema.aroundDataType, Schema.aroundField, hd,
          howner, hf]
      | some fd =>
        cases hc : s.class? fd.owner <;>
          simp [ofDataType, Schema.containers, Schema.aroundDataType, Schema.aroundField,
            Schema.aroundClass, hd, howner, hf, hc, along, along_aroundPackaged]
    | typedef t =>
      cases ht : s.typedef? t <;>
        simp [ofDataType, Schema.containers, Schema.aroundDataType, Schema.aroundTypedef, hd,
          howner, ht, along, along_aroundPackaged]

/-- Over nodes that are there, a walk meets blocks exactly if it comes to a package. -/
theorem along_cases : ∀ {ns : List Node} (_ : ∀ n ∈ ns, s.has n) (seen : Option (Option Defaults)),
    ((∃ p, Node.package p ∈ ns) ∧ ∃ c, along s seen ns = some (some c)) ∨
      ((∀ p, Node.package p ∉ ns) ∧ along s seen ns = some none)
  | [], _, _ => .inr ⟨by simp, rfl⟩
  | n :: ns, h, seen => by
    obtain ⟨hn, hns⟩ := List.forall_mem_cons.1 h
    cases n with
    | package p =>
      obtain ⟨d, hd⟩ := Schema.exists_package hn
      exact .inl ⟨⟨p, List.mem_cons_self⟩, _, by rw [along, hd]; rfl⟩
    | classDecl c =>
      obtain ⟨d, hd⟩ := Schema.exists_class hn
      simpa [along, hd] using along_cases hns (seen.or (some d.defaults))
    | field f | typedef t | enumDecl e | dataType x =>
      simpa [along] using along_cases hns seen

end Cascade

end SchemaTypes
