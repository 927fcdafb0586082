/-
Which elementary types are marked as texts whose letters are checked.

What a type name denotes does not depend on the case of its letters, the mark
does: it is set for the kinds `uppercase` and `lowercase`, but only where the
name is written without upper case letters (`Validates`).

A memo holds for an elementary data type just what is computed from it
(`Memo.Computed`). This needs no more of the schema than that the calls give
answers, so it holds of schemas with dangling handles too.
-/
import SchemaTypes.Proofs.MemoHistory

namespace SchemaTypes

/-! ## Names and kinds -/

namespace Kind

/-- The kinds of the texts whose letters are to be checked. -/
def IsCased (k : Kind) : Prop :=
  k = .uppercase ∨ k = .lowercase

instance (k : Kind) : Decidable k.IsCased :=
  inferInstanceAs (Decidable (k = .uppercase ∨ k = .lowercase))

/-- Their names in the table. -/
def casedNames : List String :=
  ["uppercase", "lowercase"]

theorem fold_of_mem_casedNames {name : String} (h : name ∈ casedNames) :
    Text.fold name = name.toList := by
  revert name
  decide

theorem isCased_of_mem_table {entry : String × Kind} (h : entry ∈ table) :
    entry.2.IsCased ↔ entry.1 ∈ casedNames := by
  revert entry
  decide

theorem isCased_iff {name : String} {k : Kind} (h : ofName? name = some k) :
    k.IsCased ↔ ∃ key ∈ casedNames, Text.fold name = key.toList := by
  obtain ⟨key, hmem, hfold⟩ := ofName?_eq_some_iff.1 h
  rw [isCased_of_mem_table hmem]
  constructor
  · exact fun hcased => ⟨key, hcased, hfold⟩
  · rintro ⟨key', hcased, hfold'⟩
    exact String.toList_inj.1 (hfold'.symm.trans hfold) ▸ hcased

end Kind

namespace Spelling

/-- The names that canonicalization exchanges for each other. -/
def exchanged : List String :=
  ["Int", "Integer", "Char", "Character", "int", "integer", "char", "character"]

/-- No other name is made or changed by canonicalization. -/
theorem canonical_name_eq_iff {declared name : String} (h : name ∉ exchanged) :
    (canonical declared).name = name ↔ declared = name := by
  simp only [exchanged, List.mem_cons, List.not_mem_nil, or_false, not_or] at h
  simp only [canonical]
  split
  · unfold boxedName
    split <;> grind
  · unfold primitiveName
    split <;> grind

end Spelling

/-- What the mark of a target says of the declared name. -/
structure Elementary.Marked (e : Elementary) (target : ElementaryTarget) : Prop where
  kind : e.kind? = some target.kind
  /-- The mark goes by the letters of the name. -/
  name : target.validated ↔ e.name ∈ Kind.casedNames
  /-- No other kind is ever marked. -/
  cased : target.validated → target.kind.IsCased
  /-- Of those kinds, marked is what is declared without upper case letters. -/
  folded : target.kind.IsCased → (target.validated ↔ Text.fold e.name = e.name.toList)

theorem Elementary.Marked.of_name {e : Elementary} {target : ElementaryTarget}
    (hkind : e.kind? = some target.kind) (hname : target.validated ↔ e.name ∈ Kind.casedNames) :
    e.Marked target where
  kind := hkind
  name := hname
  cased h := (Kind.isCased_iff hkind).2
    ⟨e.name, hname.1 h, Kind.fold_of_mem_casedNames (hname.1 h)⟩
  folded h := by
    obtain ⟨key, hcased, hfold⟩ := (Kind.isCased_iff hkind).1 h
    rw [hname]
    constructor
    · exact Kind.fold_of_mem_casedNames
    · intro hsame
      exact String.toList_inj.1 (hfold.symm.trans hsame) ▸ hcased

/-! ## What a memo holds for the elementary data types -/

namespace Schema

variable {s : Schema} {m m' : Memo} {id : DataTypeId}

theorem parts_of_elementaryTarget {e : Elementary} {target : ElementaryTarget}
    (h : s.elementaryTarget id e = some (.ok target)) :
    ∃ kind representation attributes, e.kind? = some kind ∧
      Attributes.ofDataType s id e = some (.ok attributes) ∧
      s.representation kind e = some (some representation) ∧
      target = {
        kind
        name := (Spelling.canonical e.name).name
        representation
        primitiveCapable := attributes.primitiveUse == .primitives &&
          Spelling.isPrimitive (Spelling.canonical e.name).name
        validated := (Spelling.canonical e.name).name == "uppercase" ||
          (Spelling.canonical e.name).name == "lowercase"
        capitalized := (Spelling.canonical e.name).capitalized
        length := e.length
        decimals := e.decimals
        enumeration := e.enumeration
        attributes } := by
  simp only [elementaryTarget, Option.bind_eq_bind, Option.bind_eq_some_iff] at h
  obtain ⟨attributes, hattributes, h⟩ := h
  cases attributes with
  | error failure => cases h
  | ok attributes =>
    obtain ⟨d, -, h⟩ := Option.bind_eq_some_iff.1 h
    split at h
    · cases h
    next kind hkind =>
    obtain ⟨representation, hrepresentation, h⟩ := Option.bind_eq_some_iff.1 h
    cases representation with
    | none => cases h
    | some representation =>
      rw [Spelling.ofName?_canonical] at hkind
      exact ⟨kind, representation, attributes, hkind, hattributes, hrepresentation,
        (Except.ok.inj (Option.some.inj h)).symm⟩

theorem marked_of_elementaryTarget {e : Elementary} {target : ElementaryTarget}
    (h : s.elementaryTarget id e = some (.ok target)) : e.Marked target := by
  obtain ⟨kind, representation, attributes, hkind, -, -, rfl⟩ := parts_of_elementaryTarget h
  refine .of_name hkind ?_
  rw [Bool.or_eq_true, beq_iff_eq, beq_iff_eq,
    Spelling.canonical_name_eq_iff (by decide), Spelling.canonical_name_eq_iff (by decide)]
  simp [Kind.casedNames]

/-- A descriptor of an elementary data type has the target that is computed from it. -/
def Computed (s : Schema) (d : Descriptor) : Prop :=
  ∀ {node e}, s.dataType? d.origin = some node → node.form = .elementary e →
    ∃ target, s.elementaryTarget d.origin e = some (.ok target) ∧ d.target = .elementary target

end Schema

/-- Slots lead to descriptors of their own data types, and those of the elementary ones are
what is computed from them. -/
structure Memo.Computed (s : Schema) (m : Memo) : Prop where
  placed : ∀ {id i}, m.slot? id = some (.resolved i) →
    ∃ d, m.descriptors[i]? = some d ∧ d.origin = id
  right : ∀ d ∈ m.descriptors, s.Computed d

namespace Memo.Computed

variable {s : Schema} {m : Memo}

theorem empty : Memo.empty.Computed s where
  placed := by simp [slot?_empty]
  right := by simp [Memo.empty]

theorem mark (h : m.Computed s) (id : DataTypeId) (t : TypedefId) : (m.mark id t).Computed s where
  placed {other i} hother := by
    by_cases hid : id = other
    · simp [hid] at hother
    · exact h.placed (by simpa [hid] using hother)
  right := h.right

theorem clearSlot (h : m.Computed s) (id : DataTypeId) : (m.clearSlot id).Computed s where
  placed {other i} hother := by
    by_cases hid : id = other
    · simp [hid] at hother
    · exact h.placed (by simpa [hid] using hother)
  right := h.right

theorem remember (h : m.Computed s) {d : Descriptor} (hd : s.Computed d) :
    (m.remember d).Computed s where
  placed {other i} hother := by
    rw [descriptors_remember, Array.getElem?_push]
    by_cases hid : d.origin = other
    · obtain rfl : m.descriptors.size = i := by simpa [hid] using hother
      exact ⟨d, by simp, hid⟩
    · obtain ⟨d', hd', horigin⟩ := h.placed (by simpa [hid] using hother)
      have hi := (Array.getElem?_eq_some_iff.1 hd').1
      exact ⟨d', by rw [if_neg (by omega), hd'], horigin⟩
  right d' hd' := by
    rcases Array.mem_push.1 hd' with hd' | rfl
    · exact h.right d' hd'
    · exact hd

end Memo.Computed

namespace Schema

variable {s : Schema} {m m' : Memo} {id : DataTypeId}

theorem computed_of_form {d : Descriptor} {node : DataType}
    (hd : s.dataType? d.origin = some node) (hform : ∀ e, node.form ≠ .elementary e) :
    s.Computed d := by
  intro node' e hd' hform'
  obtain rfl := Option.some.inj (hd.symm.trans hd')
  exact absurd hform' (hform e)

/-- **A call keeps that**, and its descriptor is that of the data type asked for. -/
theorem computed_of_resolve {answer : Except Failure Descriptor} (hm : m.Computed s)
    (hcall : s.resolve m id = some (answer, m')) :
    m'.Computed s ∧ ∀ d, answer = .ok d → d.origin = id ∧ s.Computed d := by
  fun_induction s.resolve m id generalizing m' answer with
  | case1 m id place hslot =>
    obtain ⟨d, hd, horigin⟩ := hm.placed hslot
    rw [hd] at hcall
    obtain ⟨rfl, rfl⟩ := Prod.mk.inj (Option.some.inj hcall)
    refine ⟨hm, fun d' hd' => ?_⟩
    obtain rfl := Except.ok.inj hd'
    exact ⟨horigin, hm.right d (Array.mem_of_getElem? hd)⟩
  | case2 m id t hslot =>
    obtain ⟨failure, -, heq⟩ := Option.map_eq_some_iff.1 hcall
    obtain ⟨rfl, rfl⟩ := Prod.mk.inj heq
    exact ⟨hm, fun _ hd => nomatch hd⟩
  | case3 | case6 => cases hcall
  | case4 m id hslot node hnode e hform =>
    obtain ⟨outcome, houtcome, heq⟩ := Option.map_eq_some_iff.1 hcall
    cases outcome with
    | error failure =>
      obtain ⟨rfl, rfl⟩ := Prod.mk.inj heq
      exact ⟨hm, fun _ hd => nomatch hd⟩
    | ok target =>
      obtain ⟨rfl, rfl⟩ := Prod.mk.inj heq
      have hcomputed : s.Computed ⟨id, none, .elementary target⟩ := by
        intro node' e' hnode' hform'
        obtain rfl := Option.some.inj (hnode.symm.trans hnode')
        obtain rfl := TypeForm.elementary.inj (hform.symm.trans hform')
        exact ⟨target, houtcome, rfl⟩
      refine ⟨hm.remember hcomputed, fun d hd => ?_⟩
      obtain rfl := Except.ok.inj hd
      exact ⟨rfl, hcomputed⟩
  | case5 m id hslot node hnode c hform =>
    obtain ⟨rfl, rfl⟩ := Prod.mk.inj (Option.some.inj hcall)
    have hcomputed : s.Computed ⟨id, none, .object c⟩ :=
      computed_of_form hnode (by simp [hform])
    refine ⟨hm.remember hcomputed, fun d hd => ?_⟩
    obtain rfl := Except.ok.inj hd
    exact ⟨rfl, hcomputed⟩
  | case7 m id hslot node hnode t hform typedef htypedef hless ih =>
    obtain ⟨⟨inner, m₁⟩, hinner, heq⟩ := Option.map_eq_some_iff.1 hcall
    obtain ⟨hm₁, -⟩ := ih (hm.mark id t) hinner
    cases inner with
    | error failure =>
      obtain ⟨rfl, rfl⟩ := Prod.mk.inj heq
      exact ⟨hm₁.clearSlot id, fun _ hd => nomatch hd⟩
    | ok aliased =>
      obtain ⟨rfl, rfl⟩ := Prod.mk.inj heq
      have hcomputed : s.Computed ⟨id, t, aliased.target⟩ :=
        computed_of_form hnode (by simp [hform])
      refine ⟨hm₁.remember hcomputed, fun d hd => ?_⟩
      obtain rfl := Except.ok.inj hd
      exact ⟨rfl, hcomputed⟩

end Schema

theorem Memo.Reached.computed {s : Schema} {m : Memo}
    {calls : List (DataTypeId × Except Failure Descriptor)} (h : Reached s calls m) :
    m.Computed s := by
  induction h with
  | start | clear => exact .empty
  | resolve _ call ih => exact (Schema.computed_of_resolve ih call).1

namespace Schema

variable {s : Schema} {m m' : Memo} {id : DataTypeId}
  {calls : List (DataTypeId × Except Failure Descriptor)}

/-- **When a scalar is marked as a text whose letters are checked.** After whatever calls, a
scalar that resolves has the kind its name denotes in any case of letters; marked are only
the kinds `uppercase` and `lowercase`, and those exactly where the name is declared without
upper case letters. -/
theorem marked_of_resolve (hm : Memo.Reached s calls m) {d : DataType} {e : Elementary}
    (hd : s.dataType? id = some d) (hform : d.form = .elementary e) {found : Descriptor}
    (hcall : s.resolve m id = some (.ok found, m')) :
    ∃ target, found.target = .elementary target ∧ e.Marked target := by
  obtain ⟨-, hfound⟩ := computed_of_resolve hm.computed hcall
  obtain ⟨rfl, hcomputed⟩ := hfound found rfl
  obtain ⟨target, htarget, hsame⟩ := hcomputed hd hform
  exact ⟨target, hsame, marked_of_elementaryTarget htarget⟩

/-! ## Two spellings of one type -/

/-- In package `p` class `C` has a field of type `Uppercase` and one of type `uppercase`. -/
def twoSpellingsCalls : List Draft.Call :=
  [.addPackage "p", .addClass (some ⟨0⟩) "C", .addName "Uppercase",
   .addField ⟨0⟩ "x" (.elementary { name := "Uppercase", length := 7 }), .addName "uppercase",
   .addField ⟨0⟩ "y" (.elementary { name := "uppercase", length := 7 })]

def twoSpellings : Schema where
  names := ["p", "C", "Uppercase", "x", "uppercase", "y"].foldl NameTable.insert .empty
  packages := #[{ name := "p" }]
  classes := #[{ name := "C", package := some ⟨0⟩, fields := #[⟨0⟩, ⟨1⟩] }]
  fields := #[{ name := "x", owner := ⟨0⟩, dataType := ⟨0⟩ },
    { name := "y", owner := ⟨0⟩, dataType := ⟨1⟩ }]
  typedefs := #[]
  enums := #[]
  dataTypes :=
    #[{ form := .elementary { name := "Uppercase", length := 7 }, owner := .field ⟨0⟩ },
      { form := .elementary { name := "uppercase", length := 7 }, owner := .field ⟨1⟩ }]

theorem twoSpellings_wellFormed : twoSpellings.WellFormed where
  drafted := ⟨twoSpellingsCalls, _, rfl, rfl⟩
  closed := by decide

/-- The field of type `uppercase` is marked, as its name has no upper case letters. -/
theorem marked_of_resolve_folded : Memo.Reached twoSpellings [] .empty ∧
    ∃ d e found m', twoSpellings.dataType? ⟨1⟩ = some d ∧ d.form = .elementary e ∧
      twoSpellings.resolve .empty ⟨1⟩ = some (.ok found, m') ∧ found.isValidated := by
  have hcall := resolve_of_terminal_ok (Memo.slot?_empty ⟨1⟩)
    (.elementary (s := twoSpellings) (by rfl) (by rfl) (by rfl))
  obtain ⟨target, htarget, hmarked⟩ := marked_of_resolve .start (by rfl) (by rfl) hcall
  refine ⟨.start, _, _, _, _, rfl, rfl, hcall, ?_⟩
  rw [Descriptor.isValidated, Descriptor.elementary?, htarget]
  exact hmarked.name.2 (by decide)

/-- **The mark depends on the case of the letters.** Of two fields with the names `Uppercase` and
`uppercase` for their types, both of the kind `uppercase`, the first is not marked and the
second is. -/
theorem unmarked_uppercase : twoSpellings.WellFormed ∧ ∃ d d' e e' found found' m m',
    twoSpellings.dataType? ⟨0⟩ = some d ∧ d.form = .elementary e ∧
    twoSpellings.dataType? ⟨1⟩ = some d' ∧ d'.form = .elementary e' ∧
    Text.fold e.name = Text.fold e'.name ∧
    twoSpellings.resolve .empty ⟨0⟩ = some (.ok found, m) ∧
    found.kind? = some .uppercase ∧ found.isValidated = false ∧
    twoSpellings.resolve .empty ⟨1⟩ = some (.ok found', m') ∧
    found'.kind? = some .uppercase ∧ found'.isValidated = true := by
  have hupper := resolve_of_terminal_ok (Memo.slot?_empty ⟨0⟩)
    (.elementary (s := twoSpellings) (by rfl) (by rfl) (by rfl))
  have hlower := resolve_of_terminal_ok (Memo.slot?_empty ⟨1⟩)
    (.elementary (s := twoSpellings) (by rfl) (by rfl) (by rfl))
  exact ⟨twoSpellings_wellFormed, _, _, _, _, _, _, _, _, rfl, rfl, rfl, rfl, by decide,
    hupper, rfl, rfl, hlower, rfl, rfl⟩

end Schema

end SchemaTypes
