/-
Reordered documents stand for the same schema with other handles.

A reference leads to the declaration with the name that it gives, wherever that
stands, so what a declaration says is the same in both documents up to the
renumbering. The data types are numbered through their owners, since a data
type is found at the field or typedef in which it is written.
-/
import SchemaTypes.Proofs.LoadedSchema
import SchemaTypes.Proofs.RenumberedRuns
import SchemaTypes.Proofs.Reordering

namespace SchemaTypes.Document

variable {d d' : Document} {s s' : Schema} {φ : Renumbering}

/-! ## References -/

theorem idxOf?_moved {α : Type} {xs ys : List (Placed α)} {name : α → String}
    {σ τ : Equiv.Perm Nat} (hxs : (xs.map (·.qualified name)).Nodup)
    (hys : (ys.map (·.qualified name)).Nodup) (hτ : ∀ i, ys[τ i]? = xs[i]?.map (·.moved σ))
    (key : QualifiedName) :
    (ys.map (·.qualified name)).idxOf? key = ((xs.map (·.qualified name)).idxOf? key).map τ := by
  ext j
  obtain ⟨i, rfl⟩ := τ.surjective j
  have hplace : (ys.map (·.qualified name))[τ i]? = (xs.map (·.qualified name))[i]? := by
    simp only [List.getElem?_map, hτ, Option.map_map]
    rfl
  simp [idxOf?_eq_some_iff hys, idxOf?_eq_some_iff hxs, hplace]

namespace Moved

section References

variable (h : Moved φ d d') (hd : d.Acceptable) (hd' : d'.Acceptable) (around : String)
include h hd hd'

theorem enumOf? (reference : String) :
    d'.enumOf? around reference = (d.enumOf? around reference).map φ.enumDecl := by
  have hindex := idxOf?_moved hd.enumNames hd'.enumNames h.enums (.ofReference around reference)
  simp only [Document.enumOf?, enumNames, hindex, Option.map_map]
  rfl

theorem typedefOf? (reference : String) :
    d'.typedefOf? around reference = (d.typedefOf? around reference).map φ.typedef := by
  have hindex :=
    idxOf?_moved hd.typedefNames hd'.typedefNames h.typedefs (.ofReference around reference)
  simp only [Document.typedefOf?, typedefNames, hindex, Option.map_map]
  rfl

theorem classOf? (reference : String) :
    d'.classOf? around reference = (d.classOf? around reference).map φ.classDecl := by
  have hindex :=
    idxOf?_moved hd.classNames hd'.classNames h.classes (.ofReference around reference)
  simp only [Document.classOf?, classNames, hindex, Option.map_map]
  rfl

theorem means {type : TypePart} {form : TypeForm} (hform : type.Means d around form) :
    type.Means d' around (form.renumber φ) := by
  cases hform with
  | @elementary p e he =>
    refine .elementary { he with enumeration := ?_ }
    rw [Elementary.renumber, he.enumeration, Option.map_bind]
    exact Option.bind_congr fun reference _ => (h.enumOf? hd hd' around reference).symm
  | @object reference c hc =>
    exact .object (by rw [h.classOf? hd hd', hc, Option.map_some])
  | @typedef reference t ht =>
    exact .typedef (by rw [h.typedefOf? hd hd', ht, Option.map_some])

end References

end Moved

/-! ## Data types and their owners -/

/-- The type that is written at a field or typedef, with the name of the package around it. -/
def typeAt? (d : Document) : TypeOwner → Option (String × TypePart)
  | .field f => d.fields[f.index]?.map fun x => (x.around, x.part.type)
  | .typedef t => d.typedefs[t.index]?.map fun x => (x.around, x.part.type)

def ownersOf (s : Schema) : List TypeOwner :=
  s.dataTypes.toList.map (·.owner)

theorem Moved.typeAt? (h : Moved φ d d') (o : TypeOwner) :
    d'.typeAt? (o.renumber φ) = d.typeAt? o := by
  cases o with
  | field f =>
    simp only [Document.typeAt?, TypeOwner.renumber, Renumbering.field, h.fields, Option.map_map]
    rfl
  | typedef t =>
    simp only [Document.typeAt?, TypeOwner.renumber, Renumbering.typedef, h.typedefs,
      Option.map_map]
    rfl

namespace Describes

theorem exists_dataType (h : d.Describes s) {o : TypeOwner} {around : String} {type : TypePart}
    (hat : d.typeAt? o = some (around, type)) :
    ∃ id, typeOf? s.fields s.typedefs o = some id ∧ WrittenAs d s.dataTypes o around type id := by
  cases o with
  | field f =>
    obtain ⟨x, hx, hpair⟩ := Option.map_eq_some_iff.1 hat
    obtain ⟨rfl, rfl⟩ := Prod.mk.inj hpair
    obtain ⟨decl, hdecl, hmatch⟩ := h.fields.exists_right hx
    exact ⟨decl.dataType, by simp [typeOf?, hdecl], hmatch.dataType⟩
  | typedef t =>
    obtain ⟨x, hx, hpair⟩ := Option.map_eq_some_iff.1 hat
    obtain ⟨rfl, rfl⟩ := Prod.mk.inj hpair
    obtain ⟨decl, hdecl, hmatch⟩ := h.typedefs.exists_right hx
    exact ⟨decl.dataType, by simp [typeOf?, hdecl], hmatch.dataType⟩

theorem exists_typeAt? (h : d.Describes s) {o : TypeOwner} {id : DataTypeId}
    (hid : typeOf? s.fields s.typedefs o = some id) :
    ∃ around type, d.typeAt? o = some (around, type) := by
  cases o with
  | field f =>
    obtain ⟨decl, hdecl, -⟩ := Option.map_eq_some_iff.1 hid
    obtain ⟨x, hx, -⟩ := h.fields.exists_left hdecl
    exact ⟨_, _, Option.map_eq_some_iff.2 ⟨x, hx, rfl⟩⟩
  | typedef t =>
    obtain ⟨decl, hdecl, -⟩ := Option.map_eq_some_iff.1 hid
    obtain ⟨x, hx, -⟩ := h.typedefs.exists_left hdecl
    exact ⟨_, _, Option.map_eq_some_iff.2 ⟨x, hx, rfl⟩⟩

theorem written (h : d.Describes s) {n : Nat} {x : DataType} (hx : s.dataTypes[n]? = some x) :
    ∃ around type, d.typeAt? x.owner = some (around, type) ∧
      type.Means d around x.form ∧ x.span = type.span?.getD .absent := by
  have hid := h.dataTypes n x hx
  obtain ⟨around, type, hat⟩ := h.exists_typeAt? hid
  obtain ⟨id, hid', form, hform, hwritten⟩ := h.exists_dataType hat
  obtain rfl := Option.some.inj (hid.symm.trans hid')
  have heq := Option.some.inj (hx.symm.trans hwritten)
  exact ⟨around, type, hat, by rwa [heq], by rw [heq]⟩

theorem mem_owners_iff (h : d.Describes s) {o : TypeOwner} :
    o ∈ ownersOf s ↔ (d.typeAt? o).isSome := by
  rw [ownersOf, List.mem_map, Option.isSome_iff_exists, Prod.exists]
  constructor
  · rintro ⟨x, hx, rfl⟩
    obtain ⟨n, hn⟩ := Array.mem_iff_getElem?.1 (Array.mem_toList_iff.1 hx)
    exact h.exists_typeAt? (h.dataTypes n x hn)
  · rintro ⟨around, type, hat⟩
    obtain ⟨id, -, form, -, hwritten⟩ := h.exists_dataType hat
    exact ⟨_, Array.mem_toList_iff.2 (Array.mem_of_getElem? hwritten), rfl⟩

theorem nodup_owners (h : d.Describes s) : (ownersOf s).Nodup := by
  have hids : (ownersOf s).map (typeOf? s.fields s.typedefs) = s.dataTypeIds.map some := by
    refine List.ext_getElem? fun n => ?_
    simp only [ownersOf, Schema.dataTypeIds, List.getElem?_map, Array.getElem?_toList]
    cases hx : s.dataTypes[n]? with
    | none => simpa using hx
    | some x =>
      have hlt := (Array.getElem?_eq_some_iff.1 hx).1
      simp [h.dataTypes n x hx, hlt]
  refine .of_map (typeOf? s.fields s.typedefs) ?_
  rw [hids, Schema.dataTypeIds, List.map_map]
  exact List.nodup_range.map fun i j hij => by simpa using hij

end Describes

/-! ## The schemas -/

/-- Two documents with the schemas for which they stand, and a renumbering that tells where the
declarations of the one stand in the other, and where the data types of an owner do. -/
structure Carried (φ : Renumbering) (d d' : Document) (s s' : Schema) : Prop where
  moved : Moved φ d d'
  source : d.Acceptable
  target : d'.Acceptable
  describes : d.Describes s
  describes' : d'.Describes s'
  owners : ∀ n, (ownersOf s')[φ.dataTypes n]? = (ownersOf s)[n]?.map (·.renumber φ)

theorem Permuted.exists_carried (h : d.Permuted d') (hd : d.Acceptable) (hs : d.Describes s)
    (hs' : d'.Describes s') : ∃ φ, Carried φ d d' s s' := by
  obtain ⟨φ, hφ⟩ := h.exists_moved hd
  have hmem (o : TypeOwner) : o.renumber φ ∈ ownersOf s' ↔ o ∈ ownersOf s := by
    rw [hs.mem_owners_iff, hs'.mem_owners_iff, hφ.typeAt?]
  obtain ⟨dataTypes, howners⟩ := exists_mapped_places hs.nodup_owners hs'.nodup_owners
    (TypeOwner.renumber_bijective φ) hmem
  exact ⟨{ φ with dataTypes }, ⟨hφ.packages, hφ.enums, hφ.typedefs, hφ.classes, hφ.fields⟩, hd,
    h.acceptable hd, hs, hs', howners⟩

/-- The entries of two tables agree if those of the lists to which they correspond do. -/
theorem Corresponds.lookup {α β : Type} {R R' : Nat → α → β → Prop} {xs xs' : List α}
    {ys ys' : Array β} {f : α → α} {g : β → β} {σ : Equiv.Perm Nat} (h : Corresponds R xs ys)
    (h' : Corresponds R' xs' ys') (hσ : ∀ i, xs'[σ i]? = xs[i]?.map f)
    (hg : ∀ i x y y', xs[i]? = some x → ys[i]? = some y → ys'[σ i]? = some y' → R i x y →
      R' (σ i) (f x) y' → y' = g y) (i : Nat) : ys'[σ i]? = ys[i]?.map g := by
  cases hy : ys[i]? with
  | some y =>
    obtain ⟨x, hx, hR⟩ := h.exists_left hy
    obtain ⟨y', hy', hR'⟩ := h'.exists_right (i := σ i) (by rw [hσ, hx, Option.map_some])
    rw [hy', hg i x y y' hx hy hy' hR hR', Option.map_some]
  | none =>
    cases hy' : ys'[σ i]? with
    | none => rfl
    | some y' =>
      obtain ⟨x', hx', -⟩ := h'.exists_left hy'
      rw [hσ] at hx'
      obtain ⟨x, hx, -⟩ := Option.map_eq_some_iff.1 hx'
      obtain ⟨y, hfound, -⟩ := h.exists_right hx
      rw [hy] at hfound
      cases hfound

theorem PackageMatches.permuted {p q : PackagePart} {x : PackageDecl} (h : PackageMatches p x)
    (hpq : p.Permuted q) : PackageMatches q x where
  name := h.name.trans hpq.name.symm
  defaults := hpq.defaults ▸ h.defaults
  span := hpq.span ▸ h.span

namespace Carried

theorem typeOf? (h : Carried φ d d' s s') {o : TypeOwner} {id : DataTypeId}
    (hid : Document.typeOf? s.fields s.typedefs o = some id) :
    Document.typeOf? s'.fields s'.typedefs (o.renumber φ) = some (φ.dataType id) := by
  obtain ⟨around, type, hat⟩ := h.describes.exists_typeAt? hid
  obtain ⟨id', hid', form, -, hwritten⟩ := h.describes.exists_dataType hat
  obtain rfl := Option.some.inj (hid.symm.trans hid')
  have howner : (ownersOf s')[φ.dataTypes id.index]? = some (o.renumber φ) := by
    rw [h.owners]
    simp [ownersOf, hwritten]
  simp only [ownersOf, List.getElem?_map, Array.getElem?_toList,
    Option.map_eq_some_iff] at howner
  obtain ⟨x', hx', howner⟩ := howner
  rw [← howner]
  exact h.describes'.dataTypes _ x' hx'

theorem eq_of_typeOf? (h : Carried φ d d' s s') {o : TypeOwner} {id id' : DataTypeId}
    (hid : Document.typeOf? s.fields s.typedefs o = some id)
    (hid' : Document.typeOf? s'.fields s'.typedefs (o.renumber φ) = some id') :
    id' = φ.dataType id :=
  Option.some.inj (hid'.symm.trans (h.typeOf? hid))

theorem package (h : Carried φ d d' s s') (p : PackageId) :
    s'.package? (φ.package p) = s.package? p := by
  have hmoved := h.moved.packages p.index
  have hmatches := h.describes.packages.rel_getElem? p.index
  have hmatches' := h.describes'.packages.rel_getElem? (φ.packages p.index)
  simp only [Schema.package?, Renumbering.package]
  generalize d.packages[p.index]? = q, s.packages[p.index]? = x at hmoved hmatches
  generalize d'.packages[φ.packages p.index]? = q', s'.packages[φ.packages p.index]? = x'
    at hmoved hmatches'
  cases hmoved with
  | none =>
    cases hmatches
    cases hmatches'
    rfl
  | some hpq =>
    cases hmatches with
    | some hx =>
      cases hmatches' with
      | some hx' => rw [hx'.unique (hx.permuted hpq)]

theorem enumDecl (h : Carried φ d d' s s') (e : EnumId) :
    s'.enum? (φ.enumDecl e) = (s.enum? e).map (·.renumber φ) := by
  simp only [Schema.enum?, Renumbering.enumDecl, ← Array.getElem?_toList, h.describes.enums,
    h.describes'.enums, List.getElem?_map, h.moved.enums, Option.map_map]
  rfl

theorem typedef (h : Carried φ d d' s s') (t : TypedefId) :
    s'.typedef? (φ.typedef t) = (s.typedef? t).map (·.renumber φ) := by
  refine h.describes.typedefs.lookup h.describes'.typedefs h.moved.typedefs ?_ t.index
  intro i x y y' _ hy hy' hmatch hmatch'
  have hdataType : y'.dataType = φ.dataType y.dataType := by
    refine h.eq_of_typeOf? (o := .typedef ⟨i⟩) ?_ ?_ <;>
      simp [Document.typeOf?, TypeOwner.renumber, Renumbering.typedef, hy, hy']
  obtain ⟨name, package, dataType, span⟩ := y'
  obtain rfl : dataType = φ.dataType y.dataType := hdataType
  obtain rfl : name = y.name := hmatch'.name.trans hmatch.name.symm
  obtain rfl : span = y.span := hmatch'.span.trans hmatch.span.symm
  obtain rfl : package = y.package.map φ.package := by
    rw [hmatch.package]
    exact hmatch'.package
  rfl

theorem field (h : Carried φ d d' s s') (f : FieldId) :
    s'.field? (φ.field f) = (s.field? f).map (·.renumber φ) := by
  refine h.describes.fields.lookup h.describes'.fields h.moved.fields ?_ f.index
  intro i x y y' _ hy hy' hmatch hmatch'
  have hdataType : y'.dataType = φ.dataType y.dataType := by
    refine h.eq_of_typeOf? (o := .field ⟨i⟩) ?_ ?_ <;>
      simp [Document.typeOf?, TypeOwner.renumber, Renumbering.field, hy, hy']
  obtain ⟨name, owner, dataType, required, span⟩ := y'
  obtain rfl : dataType = φ.dataType y.dataType := hdataType
  obtain rfl : name = y.name := hmatch'.name.trans hmatch.name.symm
  obtain rfl : required = y.required := hmatch'.required.unique hmatch.required
  obtain rfl : span = y.span := hmatch'.span.trans hmatch.span.symm
  obtain rfl : owner = φ.classDecl y.owner := by
    rw [hmatch.owner]
    exact hmatch'.owner
  rfl

theorem fields_eq (h : Carried φ d d' s s') {i : Nat} {x : Placed ClassPart} {c c' : ClassDecl}
    (hx : d.classes[i]? = some x) (hc : s.classes[i]? = some c)
    (hc' : s'.classes[φ.classes i]? = some c') (hsize : c.fields.size = x.part.fields.length)
    (hsize' : c'.fields.size = x.part.fields.length) : c'.fields = c.fields.map φ.field := by
  refine Array.ext_getElem? fun k => ?_
  rw [Array.getElem?_map]
  by_cases hk : k < x.part.fields.length
  · have hpart : x.part.fields[k]? = some x.part.fields[k] := List.getElem?_eq_getElem hk
    obtain ⟨j, f, hj, hlisted, -, -⟩ := h.describes.listed hx hc hpart
    have hj' := h.moved.fields j
    rw [hj, Option.map_some] at hj'
    obtain ⟨f', -, hfield'⟩ := h.describes'.fields.exists_right hj'
    have hlisted' : c'.fields[k]? = some ⟨φ.fields j⟩ := by
      simpa [PlacedField.moved, hc'] using hfield'.listed
    rw [hlisted, hlisted']
    rfl
  · rw [Array.getElem?_eq_none (by omega), Array.getElem?_eq_none (by omega), Option.map_none]

theorem classDecl (h : Carried φ d d' s s') (c : ClassId) :
    s'.class? (φ.classDecl c) = (s.class? c).map (·.renumber φ) := by
  refine h.describes.classes.lookup h.describes'.classes h.moved.classes ?_ c.index
  intro i x y y' hx hy hy' hmatch hmatch'
  have hfields := h.fields_eq hx hy hy' hmatch.fields hmatch'.fields
  obtain ⟨name, package, parent, isFinal, fields, defaults, span⟩ := y'
  obtain rfl : name = y.name := hmatch'.name.trans hmatch.name.symm
  obtain rfl : isFinal = y.isFinal := hmatch'.isFinal.trans hmatch.isFinal.symm
  obtain rfl : defaults = y.defaults :=
    DefaultsPart.unique_of_rel hmatch'.defaults hmatch.defaults
  obtain rfl : span = y.span := hmatch'.span.trans hmatch.span.symm
  obtain rfl : package = y.package.map φ.package := by
    rw [hmatch.package]
    exact hmatch'.package
  obtain rfl : parent = y.parent.map φ.classDecl := by
    rw [hmatch.parent, Option.map_bind]
    refine hmatch'.parent.trans (Option.bind_congr fun reference _ => ?_)
    exact h.moved.classOf? h.source h.target x.around reference
  obtain rfl : fields = y.fields.map φ.field := hfields
  rfl

theorem dataType (h : Carried φ d d' s s') (id : DataTypeId) :
    s'.dataType? (φ.dataType id) = (s.dataType? id).map (·.renumber φ) := by
  have howner := h.owners id.index
  simp only [ownersOf, List.getElem?_map, Array.getElem?_toList] at howner
  simp only [Schema.dataType?, Renumbering.dataType]
  cases hx : s.dataTypes[id.index]? with
  | none => simpa [hx] using howner
  | some x =>
    rw [hx, Option.map_some, Option.map_some, Option.map_eq_some_iff] at howner
    obtain ⟨x', hx', howner⟩ := howner
    obtain ⟨around, type, hat, hform, hspan⟩ := h.describes.written hx
    obtain ⟨around', type', hat', hform', hspan'⟩ := h.describes'.written hx'
    -- Both say what is written at the same owner.
    rw [howner, h.moved.typeAt?, hat] at hat'
    obtain ⟨rfl, rfl⟩ := Prod.mk.inj (Option.some.inj hat')
    obtain ⟨form, owner, span⟩ := x'
    obtain rfl : owner = x.owner.renumber φ := howner
    obtain rfl : form = x.form.renumber φ :=
      hform'.unique (h.moved.means h.source h.target around hform)
    obtain rfl : span = x.span := hspan'.trans hspan.symm
    exact hx'

theorem renumbered (h : Carried φ d d' s s') : Renumbered φ s s' :=
  ⟨h.package, h.classDecl, h.field, h.typedef, h.enumDecl, h.dataType⟩

end Carried

/-! ## Loading, checking and resolving -/

/-- **The order of a document does not matter.** A document without dots in the names of typedefs
and classes is loaded exactly if it is loaded with its packages in another order, and the
enumerations, typedefs and classes in them. The two schemas differ in their handles only, and
wherever in runs over them checks and tables of resolved fields are made, they have the same
diagnostics and the same rows. -/
theorem load_permuted (hdot : d.Dotless) (h : d.Permuted d') :
    ((∃ s, load d = .ok s) ↔ ∃ s', load d' = .ok s') ∧
    ∀ s s', load d = .ok s → load d' = .ok s' → ∃ φ, Renumbered φ s s' ∧
      ∀ checkLengths r r', Run.Reached s checkLengths r → Run.Reached s' checkLengths r' →
        r.ReportsAlike r' ∧ r.TablesAlike φ r' := by
  have hdot' := h.dotless hdot
  have houtcome := load_outcome hdot.unmistakable
  have houtcome' := load_outcome hdot'.unmistakable
  refine ⟨?_, fun s s' hs hs' => ?_⟩
  · rw [houtcome.ok_iff, houtcome'.ok_iff, h.acceptable_iff]
    exact and_congr_left fun _ => iff_of_true hdot hdot'
  · have hd : d.Acceptable := (houtcome.ok_iff.1 ⟨s, hs⟩).2
    obtain ⟨φ, hφ⟩ := h.exists_carried hd (houtcome.post_of_ok hs) (houtcome'.post_of_ok hs')
    have hwf := wellFormed_of_load hs
    have hwf' := wellFormed_of_load hs'
    exact ⟨φ, hφ.renumbered, fun checkLengths r r' hr hr' =>
      ⟨hφ.renumbered.check hwf hwf' hr hr', hφ.renumbered.resolvedFields hwf hwf' hr hr'⟩⟩

/-- Typedefs `A` and `B` of package `p` stand for each other, class `C` extends a class of a later
package, and class `D` has a field that leads into the circle. -/
def tangled : Document where
  packages := [
    { name := "p"
      typedefs := [
        { name := "A", type := TypePart.typedef "B" },
        { name := "B", type := TypePart.typedef "A" }]
      classes := [
        { name := "C", parent := some "q.E" },
        { name := "D", fields := [{ name := "x", type := TypePart.typedef "B" }] }] },
    { name := "q"
      classes := [{ name := "E", isFinal := true }] }]

/-- The same with the packages, the typedefs and the classes the other way round. -/
def untangled : Document where
  packages := [
    { name := "q"
      classes := [{ name := "E", isFinal := true }] },
    { name := "p"
      typedefs := [
        { name := "B", type := TypePart.typedef "A" },
        { name := "A", type := TypePart.typedef "B" }]
      classes := [
        { name := "D", fields := [{ name := "x", type := TypePart.typedef "B" }] },
        { name := "C", parent := some "q.E" }] }]

theorem tangled_permuted : tangled.Permuted untangled :=
  ⟨_, .swap _ _ _,
    .cons ⟨rfl, rfl, rfl, .refl _, .refl _, .refl _⟩
      (.cons ⟨rfl, rfl, rfl, .refl _, .swap _ _ _, .swap _ _ _⟩ .nil)⟩

theorem load_permuted_tangled :
    tangled.Dotless ∧ tangled.Permuted untangled ∧ ∃ s s' φ, load tangled = .ok s ∧
      load untangled = .ok s' ∧ Renumbered φ s s' ∧
      (Run.start s true).ReportsAlike (Run.start s' true) ∧
      (Run.start s true).TablesAlike φ (Run.start s' true) := by
  have hdot : tangled.Dotless := by
    simp only [Dotless, PackagePart.dotless_iff]
    decide
  obtain ⟨-, halike⟩ := load_permuted hdot tangled_permuted
  obtain ⟨φ, hφ, hruns⟩ := halike _ _ rfl rfl
  obtain ⟨hreports, htables⟩ := hruns true _ _ (.start .empty) (.start .empty)
  exact ⟨hdot, tangled_permuted, _, _, φ, rfl, rfl, hφ, hreports, htables⟩

end SchemaTypes.Document
