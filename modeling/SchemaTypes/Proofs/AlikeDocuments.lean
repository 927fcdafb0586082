/-
Documents that say the same.

A schema may be written in many ways: with other white space, with the members
of its objects in another order, and with more or fewer of those members that
may be left out. Which members may be left out, and what they say then, is
part of the format (`Part.slots`). `Alike` relates two trees that differ in
such ways only, at any depth.

Texts of alike trees have the same schema (`loadText_iff_of_alike`). What the
induction needs of a record is in `Part.fits`, `Part.independent` and
`Part.names`, which are the only facts about the single records here.
-/
import SchemaTypes.Proofs.RecordMembers
import SchemaTypes.Document.Load

namespace SchemaTypes.Document

open Json (Tree Reading Denotes Spells SpellsText Blank)

/-! ## The format -/

/-- The records of a document. -/
inductive Part where
  | document
  | package
  | enumeration
  | typedef
  | classDecl
  | field
  | elementary
  | defaults

/-- What stands at a place of a document. -/
inductive Place where
  | text
  | flag
  | word
  | span
  /-- A scalar, or a reference to a class or a typedef. -/
  | type
  | part (p : Part)
  | list (items : Place)
  /-- A place that may hold `null`. -/
  | optional (value : Place)

/-- A member of a record. -/
structure Slot where
  name : String
  place : Place
  /-- What the record says without the member, if it may be left out. -/
  whenAbsent : Option Tree

namespace Slot

def needed (name : String) (place : Place) : Slot :=
  ⟨name, place, none⟩

def optional (name : String) (place : Place) : Slot :=
  ⟨name, .optional place, some .null⟩

def list (name : String) (items : Place) : Slot :=
  ⟨name, .list items, some (.list [])⟩

def word (name : String) : Slot :=
  ⟨name, .word, some (.number ['0'])⟩

def flag (name : String) : Slot :=
  ⟨name, .flag, some (.bool false)⟩

end Slot

namespace Part

/-- The members of a record, in the order of its list form. -/
def slots : Part → List Slot
  | document => [.list "packages" (.part package)]
  | package => [.needed "name" .text, .optional "defaults" (.part defaults),
    .list "enums" (.part enumeration), .list "typedefs" (.part typedef),
    .list "classes" (.part classDecl), .optional "span" .span]
  | enumeration => [.needed "name" .text, .list "values" .text, .optional "span" .span]
  | typedef => [.needed "name" .text, .needed "type" .type, .optional "span" .span]
  | classDecl => [.needed "name" .text, .optional "extends" .text, .flag "final",
    .optional "defaults" (.part defaults), .list "fields" (.part field), .optional "span" .span]
  | field => [.needed "name" .text, .needed "type" .type, .optional "required" .text,
    .optional "span" .span]
  | elementary => [.needed "name" .text, .word "length", .word "decimals",
    .optional "signed" .text, .optional "trimming" .text, .optional "allow_ctrls" .text,
    .optional "enum" .text, .optional "span" .span]
  | defaults => [.optional "visibility" .text, .optional "use_primitives" .text,
    .optional "signed" .text, .optional "trimming" .text, .optional "allow_ctrls" .text,
    .optional "required" .text]

end Part

/-- Two trees that say the same at a place of a document. -/
inductive Alike : Place → Tree → Tree → Prop
  | refl (p : Place) (t : Tree) : Alike p t t
  | symm {p : Place} {a b : Tree} (h : Alike p a b) : Alike p b a
  | trans {p : Place} {a b c : Tree} (h : Alike p a b) (h' : Alike p b c) : Alike p a c
  /-- The members of an object in another order. -/
  | order (p : Place) {ms ms' : List (String × Tree)} (h : ms.Perm ms') :
    Alike p (.object ms) (.object ms')
  /-- A member that may be left out. -/
  | leaveOut {p : Part} {slot : Slot} (hslot : slot ∈ p.slots) {t : Tree}
    (ht : slot.whenAbsent = some t) {ms : List (String × Tree)}
    (habsent : slot.name ∉ ms.map (·.1)) :
    Alike (.part p) (.object ((slot.name, t) :: ms)) (.object ms)
  | member {p : Part} {slot : Slot} (hslot : slot ∈ p.slots) {a b : Tree}
    (h : Alike slot.place a b) (before after : List (String × Tree)) :
    Alike (.part p) (.object (before ++ (slot.name, a) :: after))
      (.object (before ++ (slot.name, b) :: after))
  /-- The list form of a record. -/
  | items {p : Part} {ts : List Tree} (h : ts.length ≤ p.slots.length) :
    Alike (.part p) (.list ts) (.object ((p.slots.map (·.name)).zip ts))
  /-- Of the forms of a type only scalars have members. -/
  | scalar {a b : Tree} (h : Alike (.part .elementary) a b) :
    Alike .type (.object [("elementary", a)]) (.object [("elementary", b)])
  | item {p : Place} {a b : Tree} (h : Alike p a b) (before after : List Tree) :
    Alike (.list p) (.list (before ++ a :: after)) (.list (before ++ b :: after))
  | optional {p : Place} {a b : Tree} (h : Alike p a b) : Alike (.optional p) a b

/-! ## The format and the shapes -/

/-- What is taken for a part. -/
def Part.Record : Part → Type
  | document => Document
  | package => PackagePart
  | enumeration => EnumPart
  | typedef => TypedefPart
  | classDecl => ClassPart
  | field => FieldPart
  | elementary => ElementaryPart
  | defaults => DefaultsPart

def Part.shape : (p : Part) → Shape p.Record
  | document => documentShape
  | package => packageShape
  | enumeration => enumShape
  | typedef => typedefShape
  | classDecl => classShape
  | field => fieldShape
  | elementary => elementaryShape
  | defaults => defaultsShape

/-- What is taken at a place. -/
def Place.Target : Place → Type
  | text => String
  | flag => Bool
  | word => Nat
  | span => Span
  | type => TypePart
  | part p => p.Record
  | list items => List items.Target
  | optional value => Option value.Target

def Place.take : (p : Place) → Taker p.Target
  | text => takeText
  | flag => takeBool
  | word => takeWord
  | span => takeSpan
  | type => takeType
  | part p => p.shape.take
  | list items => takeList items.take
  | optional value => takeOptional value.take

/-- A member of a shape has the name and the place of a slot, and sets what the slot says when
it is absent. -/
structure Slot.Fits {α : Type} (blank : α) (slot : Slot) (m : Member α) : Prop where
  name : slot.name = m.name
  isRequired : m.isRequired = slot.whenAbsent.isNone
  put : ∃ set : α → slot.place.Target → α,
    (∀ record r, m.put record r = (slot.place.take r).map (set record)) ∧
      ∀ t ∈ slot.whenAbsent, (taken slot.place.take t).map (set blank) = some blank

namespace Slot

variable {α : Type} {blank : α} {name : String}

theorem fits_needed {place : Place} {set : α → place.Target → α} :
    (needed name place).Fits blank (.needed name place.take set) :=
  ⟨rfl, rfl, set, fun _ _ => rfl, nofun⟩

/-- A member that may be left out, for which the blank record has what it says. -/
theorem fits_of_absent {place : Place} {t : Tree} {absent : place.Target}
    {set : α → place.Target → α} (ht : taken place.take t = some absent)
    (hblank : set blank absent = blank) :
    (Slot.mk name place (some t)).Fits blank (.optional name place.take set) := by
  refine ⟨rfl, rfl, set, fun _ _ => rfl, ?_⟩
  rintro _ ⟨⟩
  rw [ht, Option.map_some, hblank]

end Slot

namespace Part

theorem fits (p : Part) : List.Forall₂ (Slot.Fits p.shape.blank) p.slots p.shape.members := by
  -- What may be left out is taken as what the blank record has, by evaluation.
  cases p <;> repeat first
    | exact .nil
    | refine .cons Slot.fits_needed ?_
    | refine .cons (Slot.fits_of_absent rfl rfl) ?_

theorem names (p : Part) : p.shape.names = p.slots.map (·.name) := by
  cases p <;> rfl

theorem independent (p : Part) : p.shape.Independent where
  names := by
    rw [names]
    cases p <;> decide
  commutes := by
    -- Any two members set different fields of the record.
    cases p <;> repeat' first
      | exact .nil
      | refine .cons ?_ ?_
      | exact List.forall_mem_nil _
      | refine List.forall_mem_cons.2 ⟨?_, ?_⟩
      | exact Member.commutes_of_set (fun _ _ => rfl) (fun _ _ => rfl) fun _ _ _ => rfl

end Part

/-! ## Alike trees are taken alike -/

/-- The order of an object's members matters at no place. -/
theorem Place.taken_perm (p : Place) {ms ms' : List (String × Tree)} (h : ms.Perm ms') :
    taken p.take (.object ms) = taken p.take (.object ms') := by
  -- What is no record and no choice refuses every object.
  have hrefused : ∀ {α : Type} {take : Taker α},
      (∀ rs ending, (take (.object rs ending)).toOption = none) →
      taken take (.object ms) = taken take (.object ms') := by
    intro α take hrefuse
    rw [taken, taken, Tree.reading?, Tree.reading?]
    cases Tree.memberReadings? ms <;> cases Tree.memberReadings? ms' <;> simp [hrefuse]
  induction p with
  | text | flag | word | span | list => exact hrefused fun _ _ => rfl
  | type =>
    by_cases hlength : ms.length = 1
    · obtain ⟨e, rfl⟩ := List.length_eq_one_iff.1 hlength
      rw [List.singleton_perm.1 h]
    · have hlength' : ms'.length ≠ 1 := h.length_eq ▸ hlength
      exact (taken_variant_of_ne _ hlength).trans (taken_variant_of_ne _ hlength').symm
  | part p => exact p.independent.taken_perm h
  | optional p ih =>
    change taken (takeOptional p.take) _ = taken (takeOptional p.take) _
    rw [taken_optional _ (by simp), taken_optional _ (by simp), ih]

theorem Part.exists_member (p : Part) {slot : Slot} (hslot : slot ∈ p.slots) :
    ∃ m ∈ p.shape.members, slot.Fits p.shape.blank m := by
  have hfits := p.fits
  generalize p.slots = slots at hslot hfits
  generalize p.shape.members = members at hfits ⊢
  induction hfits with
  | nil => cases hslot
  | cons hfit _ ih =>
    rcases List.mem_cons.1 hslot with rfl | hslot
    · exact ⟨_, List.mem_cons_self, hfit⟩
    · obtain ⟨m, hm, hfit⟩ := ih hslot
      exact ⟨m, List.mem_cons_of_mem _ hm, hfit⟩

/-- What says the same as `null` is `null`, so `null` stays apart from other values. -/
theorem Alike.null_iff {p : Place} {a b : Tree} (h : Alike p a b) : a = .null ↔ b = .null := by
  induction h with
  | refl => rfl
  | symm _ ih => exact ih.symm
  | trans _ _ ih ih' => exact ih.trans ih'
  | optional _ ih => exact ih
  | order | leaveOut | member | items | scalar | item => simp

/-- **Alike trees are taken alike.** The induction is on how they differ. -/
theorem Alike.taken_eq {p : Place} {a b : Tree} (h : Alike p a b) :
    taken p.take a = taken p.take b := by
  induction h with
  | refl => rfl
  | symm _ ih => exact ih.symm
  | trans _ _ ih ih' => exact ih.trans ih'
  | order p h => exact p.taken_perm h
  | @leaveOut p slot hslot t ht ms habsent =>
    obtain ⟨m, hm, hname, hrequired, set, hput, hblank⟩ := p.exists_member hslot
    have hnames := p.independent.names
    have hsame := Shape.putTree_of_put hnames hm hput (some p.shape.blank) t
    rw [Option.bind_some, hblank t ht] at hsame
    rw [hname] at habsent ⊢
    exact Shape.taken_omit hnames hm (by rw [hrequired, ht]; rfl) hsame habsent
  | @member p slot hslot a b _ before after ih =>
    obtain ⟨m, hm, hname, -, set, hput, -⟩ := p.exists_member hslot
    change taken p.shape.take _ = taken p.shape.take _
    refine Shape.taken_member (fun record => ?_) before after
    rw [hname, Shape.putTree_of_put p.independent.names hm hput,
      Shape.putTree_of_put p.independent.names hm hput, ih]
  | @items p ts h =>
    have hlength : ts.length ≤ p.shape.members.length := by rwa [← p.fits.length_eq]
    change taken p.shape.take _ = taken p.shape.take _
    rw [p.shape.taken_items p.independent.names, if_pos hlength, p.names]
  | @scalar a b _ ih =>
    have hscalar : ∀ t, taken takeType (.object [("elementary", t)]) =
        (taken elementaryShape.take t).map TypePart.elementary := fun t =>
      (taken_variant _ "elementary" t).trans (taken_map elementaryShape.take TypePart.elementary t)
    change taken takeType _ = taken takeType _
    rw [hscalar, hscalar]
    exact congrArg _ ih
  | @item p a b _ before after ih =>
    change taken (takeList p.take) _ = taken (takeList p.take) _
    simp only [taken_list, List.mapM_append, List.mapM_cons, ih]
  | @optional p a b h ih =>
    by_cases ha : a = .null
    · rw [ha, h.null_iff.1 ha]
    · have hb : b ≠ .null := fun hb => ha (h.null_iff.2 hb)
      change taken (takeOptional p.take) a = taken (takeOptional p.take) b
      rw [taken_optional _ ha, taken_optional _ hb, ih]

theorem loadText_eq_ok_iff {text : String} {s : Schema} :
    loadText text = .ok s ↔ ∃ d, read? text = .ok d ∧ load d = .ok s := by
  rw [loadText]
  cases read? text <;> simp [Except.mapError, bind, Except.bind]

/-- **Texts of alike documents have the same schema**, or both have none. -/
theorem loadText_iff_of_alike {text text' : String} {a b : Tree} (ha : Denotes text a)
    (hb : Denotes text' b) (h : Alike (.part .document) a b) (s : Schema) :
    loadText text = .ok s ↔ loadText text' = .ok s := by
  have htaken : taken documentShape.take a = taken documentShape.take b := h.taken_eq
  simp only [loadText_eq_ok_iff, read?_eq_ok_iff ha, read?_eq_ok_iff hb, htaken]

/-! A package that has only a name, and the same with a list written out that may be left out. -/

def sparseText : String :=
  "\x7b\"packages\":[\x7b\"name\":\"p\"\x7d]\x7d"

def sparseTree : Tree :=
  .object [("packages", .list [.object [("name", .text "p")]])]

def ampleText : String :=
  "\x7b\"packages\": [\x7b\"name\":\"p\", \"classes\":[]\x7d]\x7d"

def ampleTree : Tree :=
  .object [("packages", .list [.object [("name", .text "p"), ("classes", .list [])]])]

theorem blank_nil : Blank [] := nofun

theorem blank_space : Blank [' '] := fun c hc => by
  obtain rfl := List.mem_singleton.1 hc
  rfl

theorem spells_name (rest : List Char) : Spells ('\"' :: 'p' :: '\"' :: rest)
    (.padded (.text "p")) rest :=
  .bare (.text (@SpellsText.of_plain ['p'] (by decide) rest))

theorem spells_packages {gap cs : List Char} {ms : List (String × Tree)} (hgap : Blank gap)
    (hcs : Spells cs (.members ms) ['\x7d', ']', '\x7d']) :
    Spells ('\x7b' :: '\"' :: ("packages".toList ++ '\"' :: ':' ::
      (gap ++ '[' :: '\x7b' :: cs))) (.padded (.object [("packages", .list [.object ms])])) [] := by
  have hlist := @Spells.padded gap [] _ _ _ hgap blank_nil (.list (.lastItem (.bare (.object hcs))))
  exact .bare (.object (@Spells.lastMember [] [] _ _ _ _ _ blank_nil
    (@SpellsText.of_plain "packages".toList (by decide) _) blank_nil hlist))

theorem denotes_sparse : Denotes sparseText sparseTree := by
  have hmembers := @Spells.lastMember [] [] _ _ _ _ _ blank_nil
    (@SpellsText.of_plain "name".toList (by decide) _) blank_nil
    (spells_name ['\x7d', ']', '\x7d'])
  simpa [Denotes, sparseText, sparseTree] using spells_packages blank_nil hmembers

theorem denotes_ample : Denotes ampleText ampleTree := by
  have hclasses := @Spells.lastMember [' '] [] _ _ _ _ _ blank_space
    (@SpellsText.of_plain "classes".toList (by decide) _) blank_nil
    (.bare (.emptyList blank_nil ['\x7d', ']', '\x7d']))
  have hmembers := @Spells.member [] [] _ _ _ _ _ _ _ blank_nil
    (@SpellsText.of_plain "name".toList (by decide) _) blank_nil (spells_name _) hclasses
  simpa [Denotes, ampleText, ampleTree] using spells_packages blank_space hmembers

theorem alike_ample : Alike (.part .document) ampleTree sparseTree := by
  have hpackage : Alike (.part .package) (.object [("name", .text "p"), ("classes", .list [])])
      (.object [("name", .text "p")]) :=
    (Alike.order _ (List.Perm.swap _ _ [])).trans
      (@Alike.leaveOut _ (.list "classes" (.part .classDecl)) (by simp [Part.slots]) _ rfl _
        (by decide))
  exact @Alike.member .document (.list "packages" (.part .package)) List.mem_cons_self _ _
    (.item hpackage [] []) [] []

theorem loadText_iff_of_alike_ample : Denotes ampleText ampleTree ∧ Denotes sparseText sparseTree ∧
    Alike (.part .document) ampleTree sparseTree ∧
    ∃ s, loadText ampleText = .ok s ∧ loadText sparseText = .ok s := by
  obtain ⟨s, hs⟩ : ∃ s, load { packages := [{ name := "p" }] } = .ok s := ⟨_, rfl⟩
  have hload : loadText ampleText = .ok s :=
    loadText_eq_ok_iff.2 ⟨_, (read?_eq_ok_iff denotes_ample _).2 rfl, hs⟩
  exact ⟨denotes_ample, denotes_sparse, alike_ample, s, hload,
    (loadText_iff_of_alike denotes_ample denotes_sparse alike_ample s).1 hload⟩

end SchemaTypes.Document
