/-
What the canonical spelling of a type's name settles.

It is its own canonical spelling, it denotes what the declared name denotes,
and it names a primitive exactly for ten declared names, none of which is
capitalized. So a scalar declared with an upper case letter in front is never
emitted as a primitive, whatever the blocks around it say.
-/
import SchemaTypes.Proofs.CapitalizedNames

namespace SchemaTypes

namespace Spelling

/-- The declared names that may stand for a primitive. -/
def primitiveSpellings : List String :=
  ["boolean", "int", "integer", "long", "float", "double", "byte", "short", "char", "character"]

variable {name : String}

/-! ## Stability -/

theorem boxedName_boxedName (name : String) : boxedName (boxedName name) = boxedName name := by
  fun_cases boxedName name with
  | case1 => rfl
  | case2 => rfl
  | case3 => simp_all [boxedName]

theorem primitiveName_primitiveName (name : String) :
    primitiveName (primitiveName name) = primitiveName name := by
  fun_cases primitiveName name with
  | case1 => rfl
  | case2 => rfl
  | case3 => simp_all [primitiveName]

theorem startsUppercase_primitiveName (h : Text.startsUppercase name = false) :
    Text.startsUppercase (primitiveName name) = false := by
  unfold primitiveName
  split
  · decide
  · decide
  · exact h

/-- The canonical spelling starts with an upper case letter where the declared name does. -/
theorem startsUppercase_canonical (declared : String) :
    Text.startsUppercase (canonical declared).name = Text.startsUppercase declared := by
  cases h : Text.startsUppercase declared with
  | true => simpa [canonical, h] using startsUppercase_boxedName h
  | false => simpa [canonical, h] using startsUppercase_primitiveName h

theorem canonical_canonical (declared : String) :
    canonical (canonical declared).name = canonical declared := by
  have hcase := startsUppercase_canonical declared
  unfold canonical at hcase ⊢
  cases h : Text.startsUppercase declared with
  | true => simp_all [boxedName_boxedName]
  | false => simp_all [primitiveName_primitiveName]

/-! ## Primitives -/

theorem isPrimitive_primitiveName :
    isPrimitive (primitiveName name) ↔ name ∈ primitiveSpellings := by
  unfold primitiveName
  split
  · decide
  · decide
  · next hinteger hcharacter =>
    have hother : ¬name = "integer" ∧ ¬name = "character" := ⟨hinteger, hcharacter⟩
    simp [isPrimitive, primitiveNames, primitiveSpellings, hother]

theorem startsUppercase_of_mem_primitiveSpellings (h : name ∈ primitiveSpellings) :
    Text.startsUppercase name = false := by
  have hall : ∀ n ∈ primitiveSpellings, Text.startsUppercase n = false := by decide +kernel
  exact hall name h

theorem isPrimitive_canonical_iff {declared : String} :
    isPrimitive (canonical declared).name ↔ declared ∈ primitiveSpellings := by
  cases h : Text.startsUppercase declared with
  | true =>
    rw [isPrimitive_of_startsUppercase h]
    simp only [Bool.false_eq_true, false_iff]
    intro hmem
    simp [startsUppercase_of_mem_primitiveSpellings hmem] at h
  | false => simpa [canonical, h] using isPrimitive_primitiveName

end Spelling

namespace Schema

variable {s : Schema} {m m' : Memo} {id : DataTypeId}

/-- A scalar may be a primitive if the blocks around it say so and its name does. -/
theorem primitiveCapable_of_elementaryTarget {e : Elementary} {target : ElementaryTarget}
    (h : s.elementaryTarget id e = some (.ok target)) : target.primitiveCapable ↔
      target.attributes.primitiveUse = .primitives ∧ e.name ∈ Spelling.primitiveSpellings := by
  obtain ⟨kind, representation, attributes, -, -, -, rfl⟩ := parts_of_elementaryTarget h
  rw [Bool.and_eq_true, beq_iff_eq, Spelling.isPrimitive_canonical_iff]

/-- That a declared name may be a primitive shows wherever a scalar of that name is resolved. -/
theorem isPrimitiveCapable_of_resolve {calls : List (DataTypeId × Except Failure Descriptor)}
    (hm : Memo.Reached s calls m) {d : DataType} {e : Elementary}
    (hd : s.dataType? id = some d) (hform : d.form = .elementary e) {found : Descriptor}
    (hcall : s.resolve m id = some (.ok found, m')) : found.isPrimitiveCapable ↔
      (∃ a, found.attributes? = some a ∧ a.primitiveUse = .primitives) ∧
      e.name ∈ Spelling.primitiveSpellings := by
  obtain ⟨-, hfound⟩ := computed_of_resolve hm.computed hcall
  obtain ⟨rfl, hcomputed⟩ := hfound found rfl
  obtain ⟨target, htarget, hsame⟩ := hcomputed hd hform
  simp [Descriptor.isPrimitiveCapable, Descriptor.attributes?, Descriptor.elementary?, hsame,
    primitiveCapable_of_elementaryTarget htarget]

end Schema

namespace Spelling

/-- **What the canonical spelling settles.** It is its own canonical spelling and denotes what the
declared name does. It names a primitive for ten declared names only; so a scalar declared with
an upper case letter in front is no primitive, whatever the blocks around it say. -/
theorem canonical_settles (declared : String) :
    canonical (canonical declared).name = canonical declared ∧
    Kind.ofName? (canonical declared).name = Kind.ofName? declared ∧
    (isPrimitive (canonical declared).name ↔ declared ∈ primitiveSpellings) ∧
    ∀ (s : Schema) (calls : List (DataTypeId × Except Failure Descriptor)) (m m' : Memo)
      (id : DataTypeId) (d : DataType) (e : Elementary) (found : Descriptor),
      Memo.Reached s calls m → s.dataType? id = some d → d.form = .elementary e →
      e.name = declared → s.resolve m id = some (.ok found, m') →
      (found.isPrimitiveCapable ↔
        (∃ a, found.attributes? = some a ∧ a.primitiveUse = .primitives) ∧
        declared ∈ primitiveSpellings) ∧
      (Text.startsUppercase declared → found.isPrimitiveCapable = false) := by
  refine ⟨canonical_canonical declared, ofName?_canonical declared, isPrimitive_canonical_iff, ?_⟩
  rintro s calls m m' id d e found hm hd hform rfl hcall
  have hcapable := Schema.isPrimitiveCapable_of_resolve hm hd hform hcall
  refine ⟨hcapable, fun hupper => ?_⟩
  rw [Bool.eq_false_iff, Ne, hcapable]
  rintro ⟨-, hmem⟩
  simp [startsUppercase_of_mem_primitiveSpellings hmem] at hupper

/-! ## A capitalized name among primitives -/

/-- In package `p`, whose block asks for primitives, class `C` has a field of type `Int` and one
of type `integer`. -/
def amongPrimitives : Schema where
  names := ["p", "C", "Int", "x", "integer", "y"].foldl NameTable.insert .empty
  packages := #[{ name := "p", defaults := some { primitiveUse := some .primitives } }]
  classes := #[{ name := "C", package := some ⟨0⟩, fields := #[⟨0⟩, ⟨1⟩] }]
  fields := #[{ name := "x", owner := ⟨0⟩, dataType := ⟨0⟩ },
    { name := "y", owner := ⟨0⟩, dataType := ⟨1⟩ }]
  typedefs := #[]
  enums := #[]
  dataTypes := #[{ form := .elementary { name := "Int" }, owner := .field ⟨0⟩ },
    { form := .elementary { name := "integer" }, owner := .field ⟨1⟩ }]

/-- `Int` is emitted boxed although primitives are asked for, and `integer` as a primitive. -/
theorem canonical_settles_among_primitives : Memo.Reached amongPrimitives [] .empty ∧
    ∃ found found' m m', amongPrimitives.resolve .empty ⟨0⟩ = some (.ok found, m) ∧
      found.isPrimitiveCapable = false ∧
      amongPrimitives.resolve .empty ⟨1⟩ = some (.ok found', m') ∧
      found'.isPrimitiveCapable = true := by
  have hupper := Schema.resolve_of_terminal_ok (Memo.slot?_empty ⟨0⟩)
    (.elementary (s := amongPrimitives) (by rfl) (by rfl) (by rfl))
  have hlower := Schema.resolve_of_terminal_ok (Memo.slot?_empty ⟨1⟩)
    (.elementary (s := amongPrimitives) (by rfl) (by rfl) (by rfl))
  obtain ⟨-, -, -, hboxed⟩ := canonical_settles "Int"
  obtain ⟨-, -, -, hplain⟩ := canonical_settles "integer"
  refine ⟨.start, _, _, _, _, hupper, ?_, hlower, ?_⟩
  · exact (hboxed _ _ _ _ _ _ _ _ .start (by rfl) (by rfl) (by rfl) hupper).2 (by decide)
  · refine (hplain _ _ _ _ _ _ _ _ .start (by rfl) (by rfl) (by rfl) hlower).1.2 ⟨?_, by decide⟩
    exact ⟨_, rfl, rfl⟩

end Spelling

end SchemaTypes
