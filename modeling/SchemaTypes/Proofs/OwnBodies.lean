/-
Whose body a declaration gets.

The second pass finds a declaration again by reading its name as a reference.
As long as no name can be taken for that of another declaration, this leads
back to the declaration itself or to nothing, so each one gets what stands in
its own part. A class `b.C` of some package is taken for the class `C` of
package `b`, which then gets its fields, while it stays empty itself; and a
typedef of that name defines the other one a second time.
-/
import SchemaTypes.Proofs.Acceptance

namespace SchemaTypes.Document

/-- A class has what its part gives it: its name, the class that it extends, the flag, the
defaults block and the fields in their order, each with name, marker and type. -/
structure HasBody (d : Document) (s : Schema) (x : Placed ClassPart) (c : ClassDecl) : Prop where
  name : c.name = x.part.name
  package : c.package = some x.package
  parent : c.parent = x.part.parent.bind (d.classOf? x.around)
  isFinal : c.isFinal = x.part.isFinal
  defaults : Option.Rel DefaultsPart.Means x.part.defaults c.defaults
  fields : List.Forall₂ (fun (part : FieldPart) id => ∃ f, s.field? id = some f ∧
    f.name = part.name ∧ Says part.required f.required ∧
    WrittenAs d s.dataTypes (.field id) x.around part.type f.dataType) x.part.fields c.fields.toList

/-- Every class and every typedef of a schema has the body of its own part in the document. -/
structure OwnBodies (d : Document) (s : Schema) : Prop where
  classes : ∀ (i : Nat) x, d.classes[i]? = some x → ∃ c, s.classes[i]? = some c ∧ HasBody d s x c
  typedefs : ∀ (i : Nat) x, d.typedefs[i]? = some x → ∃ t, s.typedefs[i]? = some t ∧
    t.name = x.part.name ∧ t.package = some x.package ∧
      WrittenAs d s.dataTypes (.typedef ⟨i⟩) x.around x.part.type t.dataType

variable {d : Document} {s : Schema}

theorem Describes.ownBodies (h : d.Describes s) : d.OwnBodies s where
  classes i x hx := by
    obtain ⟨c, hc, hmatch⟩ := h.classes.exists_right hx
    refine ⟨c, hc, hmatch.name, hmatch.package, hmatch.parent, hmatch.isFinal, hmatch.defaults, ?_⟩
    refine List.forall₂_iff_get.2 ⟨by simp [hmatch.fields], fun k hk hk' => ?_⟩
    have hpart : x.part.fields[k]? = some x.part.fields[k] := List.getElem?_eq_getElem hk
    obtain ⟨j, f, -, hid, hf, hfield⟩ := h.listed hx hc hpart
    obtain ⟨_, hget⟩ := Array.getElem?_eq_some_iff.1 hid
    simp only [List.get_eq_getElem, Array.getElem_toList, hget]
    exact ⟨f, hf, hfield.name, hfield.required, hfield.dataType⟩
  typedefs i x hx := by
    obtain ⟨t, ht, hmatch⟩ := h.typedefs.exists_right hx
    exact ⟨t, ht, hmatch.name, hmatch.package, hmatch.dataType⟩

/-- **Own bodies.** In a document where no typedef or class can be taken for another one, loading
never blames the draft, and each class and each typedef of the schema has the body that stands in
its own part. -/
theorem load_ownBodies (hd : d.Unmistakable) :
    (∀ f, load d ≠ .error (.draft f)) ∧ ∀ s, load d = .ok s → d.OwnBodies s :=
  ⟨(load_outcome hd).not_draft, fun _ hs => ((load_outcome hd).post_of_ok hs).ownBodies⟩

theorem load_ownBodies_shop :
    shop.Unmistakable ∧ ∃ s, load shop = .ok s ∧ shop.OwnBodies s :=
  have hd := shop_dotless.unmistakable
  ⟨hd, _, rfl, (load_ownBodies hd).2 _ rfl⟩

/-- A final class `b.C` with a field, in package `a`, and a bare class `C` in package `b`. -/
def misnamed : Document where
  packages := [
    { name := "a"
      classes := [
        { name := "b.C"
          isFinal := true
          fields := [
            { name := "x"
              type := .elementary { name := "int" }
              required := some "optional" }] }] },
    { name := "b"
      classes := [{ name := "C" }] }]

/-- The class of package `a` is not final, for its body went to the class of package `b`. -/
theorem load_misnamed : ∃ s, load misnamed = .ok s ∧ ¬misnamed.OwnBodies s := by
  refine ⟨_, rfl, fun h => ?_⟩
  obtain ⟨c, hc, hbody⟩ := h.classes 0 _ rfl
  obtain rfl := Option.some.inj hc
  exact absurd hbody.isFinal (by decide)

/-- Of typedefs with such names the second one is taken to be defined twice. -/
example : load {
    packages := [
      { name := "a", typedefs := [{ name := "b.T", type := .elementary { name := "int" } }] },
      { name := "b", typedefs := [{ name := "T", type := .elementary { name := "int" } }] }] } =
    .error (.draft <| DraftFault.redefinedTypedef "T") := rfl

end SchemaTypes.Document
