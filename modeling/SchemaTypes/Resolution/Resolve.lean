/-
Resolution of data types. A scalar is checked against the table of elementary
types, a class stands for itself, and a typedef is followed to the data type
that it names. Every data type on the way is left in the memo.

A data type is marked before its typedef is followed. Meeting a mark again
means that the typedefs run in a circle; the failure names the typedef of the
marked data type. The marks also bound the recursion: `openAliases` counts the
aliases without a slot, and each step down uses one up.
-/
import SchemaTypes.Elementary.Spelling
import SchemaTypes.Resolution.Memo

namespace SchemaTypes.Schema

/-! ## Scalars -/

/-- What an elementary type is emitted as: by its kind, or as the enumeration behind it. -/
def representation (s : Schema) (kind : Kind) (e : Elementary) :
    Option (Option Representation) :=
  match kind.representation?, e.enumeration with
  | some r, _ => some (some r)
  | none, some id => (s.enum? id).map fun d => some (.enumeration d.name)
  | none, none => some none

/-- The target of a scalar. Of several things wrong with it, a missing package is reported
before an unknown name, and that before a missing enumeration. -/
def elementaryTarget (s : Schema) (id : DataTypeId) (e : Elementary) :
    Option (Except Failure ElementaryTarget) := do
  let spelling := Spelling.canonical e.name
  match ← Attributes.ofDataType s id e with
  | .error failure => pure (.error failure)
  | .ok attributes =>
    let d ← s.dataType? id
    match Kind.ofName? spelling.name with
    | none => pure (.error ⟨.unmappedType, e.name, d.span⟩)
    | some kind =>
      match ← s.representation kind e with
      | none => pure (.error ⟨.missingEnum, e.name, d.span⟩)
      | some representation =>
        pure (.ok {
          kind
          name := spelling.name
          representation
          primitiveCapable :=
            attributes.primitiveUse == .primitives && Spelling.isPrimitive spelling.name
          validated := spelling.name == "uppercase" || spelling.name == "lowercase"
          capitalized := spelling.capitalized
          length := e.length
          decimals := e.decimals
          enumeration := e.enumeration
          attributes })

/-! ## Data types -/

/-- The failure of a circle of typedefs that closes at a given one. -/
def circle (s : Schema) (t : TypedefId) : Option Failure := do
  let name ← s.typedefName t
  let d ← s.typedef? t
  pure ⟨.recursiveTypedef, name, d.span⟩

/-- Whether a data type names a typedef and has no slot in the memo. -/
def isOpenAlias (s : Schema) (m : Memo) (id : DataTypeId) : Bool :=
  (s.dataType? id).any (·.form.isAlias) && (m.slot? id).isNone

def openAliases (s : Schema) (m : Memo) : Nat :=
  s.dataTypeIds.countP (s.isOpenAlias m)

theorem countP_lt_countP {α : Type} {p q : α → Bool} {a : α} : ∀ {xs : List α}, a ∈ xs →
    (∀ x, p x → q x) → q a → ¬p a → xs.countP p < xs.countP q
  | x :: xs, hmem, himp, hq, hp => by
    have hle : xs.countP p ≤ xs.countP q := List.countP_mono_left fun x _ => himp x
    rcases List.mem_cons.1 hmem with rfl | hmem
    · simp only [List.countP_cons, hq, hp]
      simp
      omega
    · have ih := countP_lt_countP hmem himp hq hp
      have hx := himp x
      simp only [List.countP_cons]
      split <;> split <;> first | omega | simp_all

theorem isOpenAlias_of_mark {s : Schema} {m : Memo} {id x : DataTypeId} {t : TypedefId}
    (h : s.isOpenAlias (m.mark id t) x) : s.isOpenAlias m x := by
  simp only [isOpenAlias, Bool.and_eq_true, Memo.slot?_mark] at h ⊢
  refine ⟨h.1, ?_⟩
  have hnone := h.2
  split at hnone <;> simp_all

/-- Marking an open alias leaves fewer of them. -/
theorem openAliases_mark_lt {s : Schema} {m : Memo} {id : DataTypeId} {d : DataType}
    {t : TypedefId} (hslot : m.slot? id = none) (hd : s.dataType? id = some d)
    (hform : d.form = .alias t) : s.openAliases (m.mark id t) < s.openAliases m := by
  have hlt : id.index < s.dataTypes.size := by
    rw [dataType?, Array.getElem?_eq_some_iff] at hd
    exact hd.1
  refine countP_lt_countP (a := id) ?_ (fun x => isOpenAlias_of_mark) ?_ ?_
  · exact List.mem_map.2 ⟨id.index, List.mem_range.2 hlt, rfl⟩
  · simp [isOpenAlias, hd, hform, hslot, TypeForm.isAlias]
  · simp [isOpenAlias]

/-- The descriptor of a data type, or why it has none, and the memo afterwards. A failure
leaves no slot behind, so that asking again gives the same answer. -/
def resolve (s : Schema) (m : Memo) (id : DataTypeId) :
    Option (Except Failure Descriptor × Memo) :=
  match hslot : m.slot? id with
  | some (.resolved place) => (m.descriptors[place]?).map fun found => (.ok found, m)
  | some (.inProgress t) => (s.circle t).map fun failure => (.error failure, m)
  | none =>
    match hd : s.dataType? id with
    | none => none
    | some d =>
      match hform : d.form with
      | .elementary e => (s.elementaryTarget id e).map fun
        | .error failure => (.error failure, m)
        | .ok target =>
          let found : Descriptor := ⟨id, none, .elementary target⟩
          (.ok found, m.remember found)
      | .object c =>
        let found : Descriptor := ⟨id, none, .object c⟩
        some (.ok found, m.remember found)
      | .alias t =>
        match s.typedef? t with
        | none => none
        | some typedef =>
          have := openAliases_mark_lt hslot hd hform
          (s.resolve (m.mark id t) typedef.dataType).map fun
          | (.error failure, m) => (.error failure, m.clearSlot id)
          | (.ok aliased, m) =>
            let found : Descriptor := ⟨id, some t, aliased.target⟩
            (.ok found, m.remember found)
termination_by s.openAliases m

end SchemaTypes.Schema
