/-
Which documents are loaded, and into what.

The two passes put together: a document without dots in the names of its
typedefs and classes is loaded exactly if it is acceptable, and its schema is
the one that it describes.
-/
import SchemaTypes.Proofs.SecondPass
import SchemaTypes.Proofs.DraftFinish

namespace SchemaTypes.Document

variable {d : Document} {l : Loader}

namespace Filled

variable {s : Schema}

theorem exists_finish (h : Filled d d.typedefs.length d.classes l) :
    ∃ s, l.draft.finish = .ok s := by
  refine Draft.finish_isOk_iff.2 ⟨h.redefined, fun i hi => ?_⟩
  have hlt : i < d.typedefs.length := by rwa [← h.typedefs.size_eq]
  have hmatch := h.typedefs.rel i _ _ (List.getElem?_eq_getElem hlt) (Array.getElem?_eq_getElem hi)
  obtain ⟨id, hid, -⟩ := hmatch.defined hlt
  rw [Draft.definition?, Array.getElem?_eq_getElem hi, Option.bind_some, hid, Option.isSome_some]

theorem describes (h : Filled d d.typedefs.length d.classes l) (hs : l.draft.finish = .ok s) :
    d.Describes s := by
  obtain ⟨-, htypedefs, heq⟩ := Schema.finish_eq_ok_iff.1 hs
  have hpending (i : Nat) : l.draft.typedefs[i]? = s.typedefs[i]?.map Draft.unfinished := by
    rw [htypedefs, Array.getElem?_map]
  refine ⟨?_, ?_, ?_, ?_, ?_, ?_⟩
  · rw [heq]; exact h.packages
  · rw [heq]; exact h.enums
  · refine ⟨by rw [← h.typedefs.size_eq, htypedefs, Array.size_map], fun i x t hx ht => ?_⟩
    have hmatch := h.typedefs.rel i x (Draft.unfinished t) hx (by rw [hpending, ht]; rfl)
    obtain ⟨id, hid, hwritten⟩ := hmatch.defined (List.getElem?_eq_some_iff.1 hx).1
    obtain rfl : t.dataType = id := Option.some.inj hid
    rw [heq]
    exact ⟨hmatch.name, hmatch.package, hmatch.span, hwritten⟩
  · rw [heq]; exact h.classes
  · rw [heq]; exact h.fields
  · intro n x hx
    rw [heq] at hx
    have hback := h.dataTypes n x hx
    cases howner : x.owner with
    | field f =>
      rw [heq]
      simpa [howner, pendingTypeOf?, typeOf?] using hback
    | typedef t =>
      simpa [howner, pendingTypeOf?, typeOf?, hpending, Draft.unfinished,
        Option.bind_eq_some_iff] using hback

end Filled

/-- Loading a document without misleading names. If a name has a dot, it leads to nothing, and
the document is refused. -/
theorem load_outcome (hd : d.Unmistakable) :
    Outcome (d.Dotless ∧ d.Acceptable) d.Describes (load d) := by
  have hiff : (((d.packages.map (·.name)).Nodup ∧ ∀ p ∈ d.packages, p.Declarable) ∧
      ∀ p ∈ d.packages, p.Dotless ∧ p.Definable d) ↔ d.Dotless ∧ d.Acceptable := by
    rw [acceptable_iff, Dotless, forall₂_and]
    tauto
  unfold load
  refine ((declare_outcome d).bind fun l₁ ⟨hnames, hdeclarable⟩ h₁ => ?_).congr hiff
  have htypedefNames : d.typedefNames.Nodup :=
    nodup_qualified hnames fun p hp => (hdeclarable p hp).typedefs
  have hclassNames : d.classNames.Nodup :=
    nodup_qualified hnames fun p hp => (hdeclarable p hp).classes
  refine (define_outcome hd htypedefNames hclassNames h₁).map fun l₂ h₂ => ?_
  obtain ⟨s, hs⟩ := h₂.exists_finish
  exact ⟨s, by rw [hs]; rfl, h₂.describes hs⟩

/-- **Acceptance and meaning of documents.** A document in which no typedef and no class has a
dot in its name is loaded exactly if it is acceptable, and then into the schema that it
describes: one declaration for each of its own, in the same order and with the same contents,
every reference being the handle of the declaration that has the names it gives. -/
theorem load_isOk_iff_acceptable (hdot : d.Dotless) :
    ((∃ s, load d = .ok s) ↔ d.Acceptable) ∧ ∀ s, load d = .ok s → d.Describes s :=
  have houtcome := (load_outcome hdot.unmistakable).congr (and_iff_right hdot)
  ⟨houtcome.ok_iff, fun _ hs => houtcome.post_of_ok hs⟩

/-- A scalar with two settings, of which one is in another case, and with a span. -/
def decimalPart : ElementaryPart where
  name := "decimal"
  length := 12
  decimals := 2
  signedness := some "Unsigned"
  trimming := some "noTrim"
  span := some ⟨4, 9⟩

def moneyPart : TypedefPart where
  name := "Money"
  type := .elementary decimalPart

def orderPart : ClassPart where
  name := "Order"
  parent := some "base.core.Entity"
  isFinal := true
  fields := [
    { name := "total", type := .typedef moneyPart.name, required := some "required" },
    { name := "state"
      type := .elementary { name := "enum", enumeration := some "base.core.State" } }]

/-- Package `shop` refers forward to the classes and enumerations of package `base.core` and, by
the bare name, to its own typedef `Money` and not to the one there. -/
def shop : Document where
  packages := [
    { name := "shop"
      typedefs := [moneyPart]
      classes := [orderPart] },
    { name := "base.core"
      defaults := some { visibility := some "PUBLIC" }
      enums := [{ name := "State", values := ["open", "closed"] }]
      typedefs := [{ name := "Money", type := .object "Entity" }]
      classes := [{ name := "Entity" }] }]

theorem shop_dotless : shop.Dotless := by
  simp only [Dotless, PackagePart.dotless_iff]
  decide

theorem load_isOk_iff_acceptable_shop :
    shop.Dotless ∧ shop.Acceptable ∧ ∃ s, load shop = .ok s ∧ shop.Describes s := by
  obtain ⟨hiff, hdescribes⟩ := load_isOk_iff_acceptable shop_dotless
  have hload : ∃ s, load shop = .ok s := ⟨_, rfl⟩
  obtain ⟨s, hs⟩ := hload
  exact ⟨shop_dotless, hiff.1 ⟨s, hs⟩, s, hs, hdescribes s hs⟩

end SchemaTypes.Document
