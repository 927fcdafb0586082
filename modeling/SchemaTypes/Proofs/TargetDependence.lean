/-
What the target of a data type depends on: the scalar at the end of its
typedefs as it is declared, the name of the enumeration behind that, and the
defaults blocks around it. So two data types, of one schema or of two, have one
target if these are alike at the ends of their typedefs (`DeclaredAlike`),
whatever lies on the way and whatever else the schemas have.

The blocks around the scalar make up its cascade, and all that reads a schema
on the way from a scalar to its target reads the cascade or the enumeration.
-/
import SchemaTypes.Proofs.MemoHistory

namespace SchemaTypes.Schema

/-! ## Declarations alike -/

/-- A field stands in a class, and that in a package. -/
structure FieldInside (s : Schema) (f : FieldId) (c : ClassDecl) (p : PackageDecl) : Prop where
  inClass : ∃ d, s.field? f = some d ∧ s.class? d.owner = some c
  inPackage : ∃ id, c.package = some id ∧ s.package? id = some p

/-- A typedef stands in a package. -/
def TypedefInside (s : Schema) (t : TypedefId) (p : PackageDecl) : Prop :=
  ∃ d id, s.typedef? t = some d ∧ d.package = some id ∧ s.package? id = some p

/-- The declarations in which two data types are written are of one kind, and the defaults blocks
around them are equal. -/
inductive OwnersAlike (s s' : Schema) : TypeOwner → TypeOwner → Prop
  | field {f f' : FieldId} {c c' : ClassDecl} {p p' : PackageDecl} (h : s.FieldInside f c p)
    (h' : s'.FieldInside f' c' p') (inClass : c.defaults = c'.defaults)
    (inPackage : p.defaults = p'.defaults) : OwnersAlike s s' (.field f) (.field f')
  | typedef {t t' : TypedefId} {p p' : PackageDecl} (h : s.TypedefInside t p)
    (h' : s'.TypedefInside t' p') (inPackage : p.defaults = p'.defaults) :
    OwnersAlike s s' (.typedef t) (.typedef t')

/-- Two data types are the same scalar, written in declarations that are alike. -/
structure DeclaredAlike (s s' : Schema) (z z' : DataTypeId) (e : Elementary) : Prop where
  scalar : ∃ owner span, s.dataType? z = some ⟨.elementary e, owner, span⟩ ∧
    ∃ owner' span', s'.dataType? z' = some ⟨.elementary e, owner', span'⟩ ∧
      OwnersAlike s s' owner owner'
  /-- The enumeration has the same name in both schemas. -/
  enumName : ∀ n, e.enumeration = some n → (s.enum? n).map (·.name) = (s'.enum? n).map (·.name)

/-- A data type has a target, by a call on a memo. -/
def ResolvesTo (s : Schema) (m : Memo) (id : DataTypeId) (target : Target) : Prop :=
  ∃ d m', s.resolve m id = some (.ok d, m') ∧ d.target = target

variable {s s' : Schema} {z z' : DataTypeId} {e : Elementary}

/-! ## Scalars -/

/-- Declarations alike give one cascade. -/
theorem OwnersAlike.exists_cascade {owner owner' : TypeOwner} {span span' : Span}
    (h : OwnersAlike s s' owner owner')
    (hz : s.dataType? z = some ⟨.elementary e, owner, span⟩)
    (hz' : s'.dataType? z' = some ⟨.elementary e, owner', span'⟩) :
    ∃ c, Cascade.ofDataType s z = some (some c) ∧ Cascade.ofDataType s' z' = some (some c) := by
  cases h with
  | @field f f' c c' p p' h h' hclass hpackage =>
    obtain ⟨⟨d, hf, hc⟩, id, hid, hp⟩ := h
    obtain ⟨⟨d', hf', hc'⟩, id', hid', hp'⟩ := h'
    refine ⟨⟨c.defaults, p.defaults⟩, ?_, ?_⟩
    · simp [Cascade.ofDataType, Cascade.inside, hz, hf, hc, hid, hp]
    · simp [Cascade.ofDataType, Cascade.inside, hz', hf', hc', hid', hp', hclass, hpackage]
  | @typedef t t' p p' h h' hpackage =>
    obtain ⟨d, id, ht, hid, hp⟩ := h
    obtain ⟨d', id', ht', hid', hp'⟩ := h'
    refine ⟨⟨none, p.defaults⟩, ?_, ?_⟩
    · simp [Cascade.ofDataType, Cascade.inside, hz, ht, hid, hp]
    · simp [Cascade.ofDataType, Cascade.inside, hz', ht', hid', hp', hpackage]

theorem representation_congr (kind : Kind)
    (h : ∀ n, e.enumeration = some n → (s.enum? n).map (·.name) = (s'.enum? n).map (·.name)) :
    s.representation kind e = s'.representation kind e := by
  have hread (s : Schema) (n : EnumId) :
      (s.enum? n).map (fun d => some (Representation.enumeration d.name)) =
        ((s.enum? n).map (·.name)).map fun name => some (.enumeration name) := by
    rw [Option.map_map]
    rfl
  unfold representation
  split
  · rfl
  · next n _ hn => rw [hread, hread, h n hn]
  · rfl

theorem DeclaredAlike.elementaryTarget (h : DeclaredAlike s s' z z' e) {target : ElementaryTarget}
    (htarget : s.elementaryTarget z e = some (.ok target)) :
    s'.elementaryTarget z' e = some (.ok target) := by
  obtain ⟨owner, span, hz, owner', span', hz', halike⟩ := h.scalar
  obtain ⟨c, hc, hc'⟩ := halike.exists_cascade hz hz'
  have hattributes : Attributes.ofDataType s z e = some (.ok (.ofCascade c e)) := by
    simp [Attributes.ofDataType, hc]
  have hattributes' : Attributes.ofDataType s' z' e = some (.ok (.ofCascade c e)) := by
    simp [Attributes.ofDataType, hc']
  have hrepresentation (kind : Kind) : s.representation kind e = s'.representation kind e :=
    representation_congr kind h.enumName
  simp only [Schema.elementaryTarget, hattributes, hattributes', hz, hz', hrepresentation,
    Option.bind_eq_bind, Option.bind_some] at htarget ⊢
  split at htarget
  · cases htarget
  · obtain ⟨representation, hr, htarget⟩ := Option.bind_eq_some_iff.1 htarget
    cases representation with
    | none => cases htarget
    | some r => simpa [hr] using htarget

theorem DeclaredAlike.terminal (h : DeclaredAlike s s' z z' e) {target : Target}
    (hz : s.Terminal z (.ok target)) : s'.Terminal z' (.ok target) := by
  obtain ⟨owner, span, hd, owner', span', hd', -⟩ := h.scalar
  cases hz with
  | object hd₁ hform =>
    obtain rfl := Option.some.inj (hd.symm.trans hd₁)
    cases hform
  | elementary hd₁ hform htarget =>
    obtain rfl := Option.some.inj (hd.symm.trans hd₁)
    obtain rfl := TypeForm.elementary.inj hform
    exact .elementary hd' rfl (h.elementaryTarget htarget)

/-! ## Data types that lead to scalars -/

section Calls

variable {m : Memo} {calls : List (DataTypeId × Except Failure Descriptor)} {x : DataTypeId}
  {xs : List DataTypeId} {target : Target}

/-- What a data type has for a target when its typedefs end. -/
theorem WellFormed.resolvesTo_iff (hs : s.WellFormed) (hm : Memo.Reached s calls m)
    (way : Path s.aliased? x xs z) (hend : s.aliased? z = none) :
    s.ResolvesTo m x target ↔ s.Terminal z (.ok target) := by
  have hsound := hm.sound hs.closed
  constructor
  · rintro ⟨d, m', hcall, rfl⟩
    have hanswer := (hs.closed.resolve_sound hsound hcall).2
    cases hanswer with
    | resolved way' ending =>
      obtain ⟨-, rfl⟩ := way.end_unique hend way' ending.aliased?_eq_none
      exact ending
  · intro ending
    have hanswer : s.Answers x _ := .resolved way ending
    obtain ⟨answer, m', hcall⟩ := hs.closed.exists_resolve hsound hanswer.mem_dataTypeIds
    obtain rfl := (hs.closed.resolve_sound hsound hcall).2.unique hanswer
    exact ⟨_, m', hcall, rfl⟩

end Calls

/-- Neither of the scalars stands for another data type. -/
theorem DeclaredAlike.ends (h : DeclaredAlike s s' z z' e) :
    s.aliased? z = none ∧ s'.aliased? z' = none := by
  obtain ⟨owner, span, hz, owner', span', hz', -⟩ := h.scalar
  exact ⟨by simp [aliased?, alias?, hz], by simp [aliased?, alias?, hz']⟩

/-- **Only the declaration of the scalar counts.** Two data types whose typedefs end in scalars
that are declared alike get one target, after whatever calls: however many typedefs are on the
way, whatever defaults blocks stand around those and around the data types themselves, and
whatever else is in the two schemas. -/
theorem resolvesTo_of_declaredAlike (hs : s.WellFormed) (hs' : s'.WellFormed) {m m' : Memo}
    {calls calls' : List (DataTypeId × Except Failure Descriptor)}
    (hm : Memo.Reached s calls m) (hm' : Memo.Reached s' calls' m') {x x' : DataTypeId}
    {xs xs' : List DataTypeId} (way : Path s.aliased? x xs z) (way' : Path s'.aliased? x' xs' z')
    (halike : DeclaredAlike s s' z z' e) {target : Target} (hz : s.ResolvesTo m z target) :
    s.ResolvesTo m x target ∧ s'.ResolvesTo m' x' target := by
  obtain ⟨hend, hend'⟩ := halike.ends
  have hterminal : s.Terminal z (.ok target) := (hs.resolvesTo_iff hm (.here z) hend).1 hz
  exact ⟨(hs.resolvesTo_iff hm way hend).2 hterminal,
    (hs'.resolvesTo_iff hm' way' hend').2 (halike.terminal hterminal)⟩

/-! ## A scalar behind two typedefs -/

/-- In package `p`, where numbers have no sign, the typedef `A` stands for an integer and `B` for
`A`; class `C` has a field of type `B`. -/
def referring (inClass : Defaults) : Schema where
  names := ["p", "A", "B", "C", "x"].foldl NameTable.insert .empty
  packages := #[{ name := "p", defaults := some { signedness := some .unsigned } }]
  classes := #[{ name := "C", package := some ⟨0⟩, fields := #[⟨0⟩], defaults := some inClass }]
  fields := #[{ name := "x", owner := ⟨0⟩, dataType := ⟨2⟩ }]
  typedefs := #[{ name := "A", package := some ⟨0⟩, dataType := ⟨0⟩ },
    { name := "B", package := some ⟨0⟩, dataType := ⟨1⟩ }]
  enums := #[]
  dataTypes := #[{ form := .elementary { name := "int" }, owner := .typedef ⟨0⟩ },
    { form := .alias ⟨0⟩, owner := .typedef ⟨1⟩ }, { form := .alias ⟨1⟩, owner := .field ⟨0⟩ }]

theorem referring_wellFormed (inClass : Defaults) : (referring inClass).WellFormed where
  drafted := ⟨[.addPackage "p", .setPackageDefaults ⟨0⟩ { signedness := some .unsigned },
    .addTypedef (some ⟨0⟩) "A", .define ⟨0⟩ (.elementary { name := "int" }),
    .addTypedef (some ⟨0⟩) "B", .define ⟨1⟩ (.alias ⟨0⟩), .addClass (some ⟨0⟩) "C",
    .setClassDefaults ⟨0⟩ inClass, .addField ⟨0⟩ "x" (.alias ⟨1⟩)], _, rfl, rfl⟩
  closed := of_decide_eq_true rfl

/-- The class around the field says that numbers have a sign, and is not asked: the field has
the target that the typedef `A` has where no class says so. -/
theorem resolvesTo_of_declaredAlike_referring :
    let s := referring {}
    let s' := referring { signedness := some .signed }
    s.WellFormed ∧ s'.WellFormed ∧ Memo.Reached s [] .empty ∧ Memo.Reached s' [] .empty ∧
    Path s.aliased? ⟨0⟩ [] ⟨0⟩ ∧ Path s'.aliased? ⟨2⟩ [⟨2⟩, ⟨1⟩] ⟨0⟩ ∧
    DeclaredAlike s s' ⟨0⟩ ⟨0⟩ { name := "int" } ∧
    ∃ target : ElementaryTarget, s.ResolvesTo .empty ⟨0⟩ (.elementary target) ∧
      target.attributes.signed = false ∧ s'.ResolvesTo .empty ⟨2⟩ (.elementary target) := by
  intro s s'
  have hs : s.WellFormed := referring_wellFormed _
  have hs' : s'.WellFormed := referring_wellFormed _
  have way' : Path s'.aliased? ⟨2⟩ [⟨2⟩, ⟨1⟩] ⟨0⟩ := .step rfl (.step rfl (.here _))
  have halike : DeclaredAlike s s' ⟨0⟩ ⟨0⟩ { name := "int" } :=
    ⟨⟨.typedef ⟨0⟩, .absent, rfl, .typedef ⟨0⟩, .absent, rfl,
      .typedef ⟨_, _, rfl, rfl, rfl⟩ ⟨_, _, rfl, rfl, rfl⟩ rfl⟩, by simp⟩
  have hz : s.Terminal ⟨0⟩ (.ok (.elementary _)) := .elementary rfl rfl rfl
  have hresolves := (hs.resolvesTo_iff .start (.here ⟨0⟩) rfl).2 hz
  exact ⟨hs, hs', .start, .start, .here _, way', halike, _, hresolves, rfl,
    (resolvesTo_of_declaredAlike hs hs' .start .start (.here ⟨0⟩) way' halike hresolves).2⟩

end SchemaTypes.Schema
