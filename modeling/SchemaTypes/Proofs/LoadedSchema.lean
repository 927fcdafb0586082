/-
Every schema that a document is loaded into is well-formed, and everything in
it is in a package.

Both passes change the draft by calls alone, and the handles in these calls
are issued ones: new handles come from the draft itself and all others from
the directories, which hold what the first pass was given (`Loader.Grown`).
-/
import SchemaTypes.Document.Load
import SchemaTypes.Proofs.Packages

namespace SchemaTypes.Document

theorem bind_eq_ok_iff {ε α β : Type} {x : Except ε α} {f : α → Except ε β} {b : β} :
    x >>= f = .ok b ↔ ∃ a, x = .ok a ∧ f a = .ok b := by
  cases x <;> simp [bind, Except.bind]

theorem map_eq_ok_iff {ε α β : Type} {x : Except ε α} {f : α → β} {b : β} :
    f <$> x = .ok b ↔ ∃ a, x = .ok a ∧ f a = b := by
  cases x <;> simp [Functor.map, Except.map]

/-- What holds of a state and is kept by every step holds after all steps. -/
theorem foldlM_keeps {ε α σ : Type} {P : σ → Prop} {f : σ → α → Except ε σ} {xs : List α}
    (hstep : ∀ x ∈ xs, ∀ a b, P a → f a x = .ok b → P b) {a b : σ} (ha : P a)
    (h : xs.foldlM f a = .ok b) : P b := by
  induction xs generalizing a with
  | nil =>
    obtain rfl : a = b := by simpa [pure, Except.pure] using h
    exact ha
  | cons x xs ih =>
    rw [List.foldlM_cons, bind_eq_ok_iff] at h
    obtain ⟨a₁, h₁, h⟩ := h
    exact ih (fun y hy => hstep y (List.mem_cons_of_mem x hy))
      (hstep x List.mem_cons_self a a₁ ha h₁) h

theorem enter_eq_ok_iff {α : Type} {kind : DeclKind} {d d' : Directory α} {key : QualifiedName}
    {value : α} :
    enter kind d key value = .ok d' ↔ d.get? key = none ∧ d' = d.insert key value := by
  unfold enter
  cases d.get? key <;> simp [eq_comm]

theorem forall_get?_insert {α : Type} {P : α → Prop} {d : Directory α} {name : QualifiedName}
    {value : α} (hd : ∀ key x, d.get? key = some x → P x) (hvalue : P value) :
    ∀ key x, (d.insert name value).get? key = some x → P x := by
  intro key x hx
  rw [Directory.get?_insert] at hx
  split at hx
  · obtain rfl := Option.some.inj hx
    exact hvalue
  · exact hd key x hx

namespace Loader

theorem follow_eq_ok_iff {α : Type} {kind : DeclKind} {d : Directory α}
    {current reference : String} {id : α} :
    follow kind d current reference = .ok id ↔
      d.get? (.ofReference current reference) = some id := by
  unfold follow
  split <;> simp_all

/-- The draft has grown from calls that declare everything in packages, and each directory leads
to handles that it has issued. -/
structure Grown (l : Loader) : Prop where
  draft : l.draft.Grown
  packaged : l.draft.Packaged
  classes : ∀ key c, l.classes.get? key = some c → l.draft.issued (.classDecl c)
  typedefs : ∀ key t, l.typedefs.get? key = some t → l.draft.issued (.typedef t)
  enums : ∀ key e, l.enums.get? key = some e → l.draft.issued (.enumDecl e)

namespace Grown

variable {l l' : Loader} {current : String}

theorem empty : Grown {} where
  draft := .empty
  packaged := .empty
  classes key c h := by simp at h
  typedefs key t h := by simp at h
  enums key e h := by simp at h

theorem perform (h : l.Grown) {c : Draft.Call} (htarget : ∀ n ∈ c.target?, l.draft.issued n)
    (hstored : ∀ n ∈ c.stored, l.draft.issued n) (hpackaged : c.Packaged) :
    ({ l with draft := l.draft.perform c } : Loader).Grown where
  draft := h.draft.perform htarget hstored
  packaged := h.packaged.perform hpackaged
  classes key x hx := Draft.issued_perform (h.classes key x hx) c
  typedefs key x hx := Draft.issued_perform (h.typedefs key x hx) c
  enums key x hx := Draft.issued_perform (h.enums key x hx) c

theorem place (h : l.Grown) {node : Node} (hnode : l.draft.issued node) (span : Option Span) :
    ({ l with draft := place l.draft node span } : Loader).Grown := by
  cases span with
  | none => exact h
  | some span =>
    exact h.perform (c := .setSpan node span) (by simpa [Draft.Call.target?])
      (by simp [Draft.Call.stored]) trivial

end Grown

theorem issued_place {d : Draft} {n : Node} (hn : d.issued n) (node : Node) (span : Option Span) :
    (place d node span).issued n := by
  cases span with
  | none => exact hn
  | some span => exact Draft.issued_perform hn (.setSpan node span)

/-! ## The first pass -/

section FirstPass

variable {l l' : Loader} {package : String} {id : PackageId}

/-- The loader is grown and a package, in which something is declared, is one of its own. -/
structure Inside (id : PackageId) (l : Loader) : Prop where
  grown : l.Grown
  package : l.draft.issued (.package id)

theorem Inside.declareEnum {p : EnumPart} (h : Inside id l)
    (hl : l.declareEnum package id p = .ok l') : Inside id l' := by
  simp only [Loader.declareEnum, bind_eq_ok_iff, enter_eq_ok_iff, pure, Except.pure,
    Except.ok.injEq] at hl
  obtain ⟨enums, ⟨-, rfl⟩, rfl⟩ := hl
  have hadded := h.grown.perform (c := .addEnum id p.name p.values)
    (by simp [Draft.Call.target?]) (by simpa [Draft.Call.stored] using h.package) trivial
  have hnew : (l.draft.perform (.addEnum id p.name p.values)).issued
      (.enumDecl ⟨l.draft.enums.size⟩) := by
    simp [Draft.perform, Draft.addEnum, Draft.foldl_addName, Draft.addName, Draft.issued]
  have hentered : Grown { l with
      draft := l.draft.perform (.addEnum id p.name p.values)
      enums := l.enums.insert ⟨package, p.name⟩ ⟨l.draft.enums.size⟩ } :=
    { hadded with enums := forall_get?_insert hadded.enums hnew }
  have hpackage := Draft.issued_perform h.package (.addEnum id p.name p.values)
  exact ⟨hentered.place hnew p.span, issued_place hpackage _ p.span⟩

theorem Inside.declareTypedef {p : TypedefPart} (h : Inside id l)
    (hl : l.declareTypedef package id p = .ok l') : Inside id l' := by
  simp only [Loader.declareTypedef, bind_eq_ok_iff, enter_eq_ok_iff, pure, Except.pure,
    Except.ok.injEq] at hl
  obtain ⟨typedefs, ⟨-, rfl⟩, rfl⟩ := hl
  have hadded := h.grown.perform (c := .addTypedef (some id) p.name)
    (by simp [Draft.Call.target?]) (by simpa [Draft.Call.stored] using h.package) rfl
  have hnew : (l.draft.perform (.addTypedef (some id) p.name)).issued
      (.typedef ⟨l.draft.typedefs.size⟩) := by
    simp [Draft.perform, Draft.addTypedef, Draft.issued]
  have hentered : Grown { l with
      draft := l.draft.perform (.addTypedef (some id) p.name)
      typedefs := l.typedefs.insert ⟨package, p.name⟩ ⟨l.draft.typedefs.size⟩ } :=
    { hadded with typedefs := forall_get?_insert hadded.typedefs hnew }
  have hpackage := Draft.issued_perform h.package (.addTypedef (some id) p.name)
  exact ⟨hentered.place hnew p.span, issued_place hpackage _ p.span⟩

theorem Inside.declareClass {p : ClassPart} (h : Inside id l)
    (hl : l.declareClass package id p = .ok l') : Inside id l' := by
  simp only [Loader.declareClass, bind_eq_ok_iff, enter_eq_ok_iff, pure, Except.pure,
    Except.ok.injEq] at hl
  obtain ⟨classes, ⟨-, rfl⟩, rfl⟩ := hl
  have hadded := h.grown.perform (c := .addClass (some id) p.name)
    (by simp [Draft.Call.target?]) (by simpa [Draft.Call.stored] using h.package) rfl
  have hnew : (l.draft.perform (.addClass (some id) p.name)).issued
      (.classDecl ⟨l.draft.classes.size⟩) := by
    simp [Draft.perform, Draft.addClass, Draft.issued]
  have hentered : Grown { l with
      draft := l.draft.perform (.addClass (some id) p.name)
      classes := l.classes.insert ⟨package, p.name⟩ ⟨l.draft.classes.size⟩ } :=
    { hadded with classes := forall_get?_insert hadded.classes hnew }
  have hpackage := Draft.issued_perform h.package (.addClass (some id) p.name)
  exact ⟨hentered.place hnew p.span, issued_place hpackage _ p.span⟩

/-- A package is new, and its defaults block is read if it has one. -/
theorem declareHead_eq (l : Loader) (p : PackagePart) : l.declareHead p =
    if p.name ∈ l.packages then .error (.duplicate .package p.name)
    else
      let id : PackageId := ⟨l.draft.packages.size⟩
      let added := { l with
        draft := Document.place (l.draft.addPackage p.name).2 (.package id) p.span
        packages := p.name :: l.packages }
      match p.defaults with
      | none => .ok (id, added)
      | some part => defaultsOf part >>= fun defaults =>
        .ok (id, { added with draft := added.draft.setPackageDefaults id defaults }) := by
  unfold Loader.declareHead
  by_cases hmem : p.name ∈ l.packages
  · simp [hmem, throw, throwThe, MonadExceptOf.throw, bind, Except.bind]
  · cases hdefaults : p.defaults with
    | none => simp [hmem, pure, Except.pure, Draft.addPackage]
    | some part =>
      cases defaultsOf part <;> simp [hmem, pure, Except.pure, bind, Except.bind, Draft.addPackage]

theorem Grown.declareHead {p : PackagePart} (h : l.Grown) (hl : l.declareHead p = .ok (id, l')) :
    Inside id l' := by
  have hadded := h.perform (c := .addPackage p.name) (by simp [Draft.Call.target?])
    (by simp [Draft.Call.stored]) trivial
  have hnew : (l.draft.perform (.addPackage p.name)).issued (.package ⟨l.draft.packages.size⟩) := by
    simp [Draft.perform, Draft.addPackage, Draft.issued]
  have hplaced := hadded.place hnew p.span
  have hissued := issued_place hnew (.package ⟨l.draft.packages.size⟩) p.span
  rw [declareHead_eq] at hl
  split at hl
  · cases hl
  · split at hl
    · simp only [Except.ok.injEq, Prod.mk.injEq] at hl
      obtain ⟨rfl, rfl⟩ := hl
      exact ⟨⟨hplaced.draft, hplaced.packaged, hplaced.classes, hplaced.typedefs, hplaced.enums⟩,
        hissued⟩
    · simp only [bind_eq_ok_iff, Except.ok.injEq, Prod.mk.injEq] at hl
      obtain ⟨defaults, -, rfl, rfl⟩ := hl
      have hset := hplaced.perform (c := .setPackageDefaults ⟨l.draft.packages.size⟩ defaults)
        (by simpa [Draft.Call.target?] using hissued) (by simp [Draft.Call.stored]) trivial
      exact ⟨⟨hset.draft, hset.packaged, hset.classes, hset.typedefs, hset.enums⟩,
        Draft.issued_perform hissued (.setPackageDefaults _ defaults)⟩

theorem Grown.declarePackage {p : PackagePart} (h : l.Grown)
    (hl : l.declarePackage p = .ok l') : l'.Grown := by
  simp only [Loader.declarePackage, bind_eq_ok_iff] at hl
  obtain ⟨⟨id, l₁⟩, h₁, l₂, h₂, l₃, h₃, h₄⟩ := hl
  have h₁ : Inside id l₁ := h.declareHead h₁
  have h₂ : Inside id l₂ := foldlM_keeps (fun _ _ _ _ ha => ha.declareEnum) h₁ h₂
  have h₃ : Inside id l₃ := foldlM_keeps (fun _ _ _ _ ha => ha.declareTypedef) h₂ h₃
  have h₄ : Inside id l' := foldlM_keeps (fun _ _ _ _ ha => ha.declareClass) h₃ h₄
  exact h₄.grown

end FirstPass

/-! ## The second pass -/

section SecondPass

variable {l l' : Loader} {current : String}

theorem Grown.elementaryOf {p : ElementaryPart} {e : Elementary} (h : l.Grown)
    (he : l.elementaryOf current p = .ok e) :
    ∀ n ∈ (TypeForm.elementary e).handles, l.draft.issued n := by
  simp only [Loader.elementaryOf, bind_eq_ok_iff, pure, Except.pure, Except.ok.injEq] at he
  obtain ⟨_, -, _, -, _, -, enumeration, henum, rfl⟩ := he
  intro n hn
  cases hp : p.enumeration with
  | none =>
    obtain rfl : none = enumeration := by simpa [hp, pure, Except.pure] using henum
    simp [TypeForm.handles] at hn
  | some reference =>
    rw [hp, Option.mapM_some, map_eq_ok_iff] at henum
    obtain ⟨id, hid, rfl⟩ := henum
    obtain rfl : n = .enumDecl id := by simpa [TypeForm.handles] using hn
    exact h.enums _ id (follow_eq_ok_iff.1 hid)

/-- Reading a type adds a name to the draft at most, and the handles in its form are issued. -/
theorem Grown.formOf {type : TypePart} {form : TypeForm} {span : Option Span} (h : l.Grown)
    (hl : l.formOf current type = .ok (form, span, l')) :
    l'.Grown ∧ (∀ n ∈ form.handles, l'.draft.issued n) ∧
      ∀ n, l.draft.issued n → l'.draft.issued n := by
  cases type with
  | elementary p =>
    simp only [Loader.formOf, bind_eq_ok_iff, pure, Except.pure, Except.ok.injEq,
      Prod.mk.injEq] at hl
    obtain ⟨e, he, rfl, rfl, rfl⟩ := hl
    have hadded := h.perform (c := .addName p.name) (by simp [Draft.Call.target?])
      (by simp [Draft.Call.stored]) trivial
    exact ⟨hadded, h.elementaryOf he, fun _ hn => hn⟩
  | object reference =>
    simp only [Loader.formOf, bind_eq_ok_iff, pure, Except.pure, Except.ok.injEq,
      Prod.mk.injEq] at hl
    obtain ⟨c, hc, rfl, rfl, rfl⟩ := hl
    have hissued := h.classes _ c (follow_eq_ok_iff.1 hc)
    exact ⟨h, by simpa [TypeForm.handles] using hissued, fun _ hn => hn⟩
  | typedef reference =>
    simp only [Loader.formOf, bind_eq_ok_iff, pure, Except.pure, Except.ok.injEq,
      Prod.mk.injEq] at hl
    obtain ⟨t, ht, rfl, rfl, rfl⟩ := hl
    have hissued := h.typedefs _ t (follow_eq_ok_iff.1 ht)
    exact ⟨h, by simpa [TypeForm.handles] using hissued, fun _ hn => hn⟩

theorem Grown.defineTypedef {p : TypedefPart} (h : l.Grown)
    (hl : l.defineTypedef current p = .ok l') : l'.Grown := by
  simp only [Loader.defineTypedef, bind_eq_ok_iff, pure, Except.pure, Except.ok.injEq] at hl
  obtain ⟨t, ht, ⟨form, span, l₁⟩, hform, rfl⟩ := hl
  obtain ⟨h₁, hissued, hmore⟩ := h.formOf hform
  have ht₁ : l₁.draft.issued (.typedef t) := hmore _ (h.typedefs _ t (follow_eq_ok_iff.1 ht))
  have hdefined := h₁.perform (c := .define t form) (by simpa [Draft.Call.target?] using ht₁)
    hissued trivial
  have hnew : (l₁.draft.perform (.define t form)).issued
      (.dataType (l₁.draft.define t form).1) := by
    simp only [Draft.perform, Draft.define, Draft.addDataType]
    split
    · simp [Draft.issued]
    · split <;> simp [Draft.issued]
  exact hdefined.place hnew span

/-- The loader is grown and a class, which is being filled, is one of its own. -/
structure Filling (c : ClassId) (l : Loader) : Prop where
  grown : l.Grown
  owner : l.draft.issued (.classDecl c)

variable {c : ClassId}

theorem Filling.perform (h : Filling c l) (call : Draft.Call)
    (htarget : ∀ n ∈ call.target?, l.draft.issued n)
    (hstored : ∀ n ∈ call.stored, l.draft.issued n) (hpackaged : call.Packaged) :
    Filling c { l with draft := l.draft.perform call } :=
  ⟨h.grown.perform htarget hstored hpackaged, Draft.issued_perform h.owner call⟩

theorem Filling.place (h : Filling c l) {node : Node} (hnode : l.draft.issued node)
    (span : Option Span) : Filling c { l with draft := Document.place l.draft node span } :=
  ⟨h.grown.place hnode span, issued_place h.owner node span⟩

theorem Filling.addField {p : FieldPart} (h : Filling c l)
    (hl : l.addField current c p = .ok l') : Filling c l' := by
  simp only [Loader.addField, bind_eq_ok_iff] at hl
  obtain ⟨⟨form, span, l₁⟩, hform, hl⟩ := hl
  obtain ⟨h₁, hissued, hmore⟩ := h.grown.formOf hform
  have howner := hmore _ h.owner
  have hadded := (Filling.mk h₁ howner).perform (.addField c p.name form)
    (by simpa [Draft.Call.target?] using howner) hissued trivial
  have htype : (l₁.draft.perform (.addField c p.name form)).issued
      (.dataType ⟨l₁.draft.dataTypes.size⟩) := by
    simp [Draft.perform, Draft.addField, Draft.addDataType, Draft.addName, Draft.issued]
  have hfield : (l₁.draft.perform (.addField c p.name form)).issued
      (.field ⟨l₁.draft.fields.size⟩) := by
    simp [Draft.perform, Draft.addField, Draft.addDataType, Draft.issued]
  have hfield₂ := issued_place hfield (.dataType ⟨l₁.draft.dataTypes.size⟩) span
  have hplaced := (hadded.place htype span).place hfield₂ p.span
  have hfield₃ := issued_place hfield₂ (.field ⟨l₁.draft.fields.size⟩) p.span
  simp only [markField, bind_eq_ok_iff] at hl
  obtain ⟨marker, -, hl⟩ := hl
  cases marker with
  | none =>
    obtain rfl := Except.ok.inj hl
    exact hplaced
  | some marker =>
    obtain rfl := Except.ok.inj hl
    exact hplaced.perform (.setRequired ⟨l₁.draft.fields.size⟩ marker)
      (by simpa [Draft.Call.target?] using hfield₃) (by simp [Draft.Call.stored]) trivial

theorem Filling.setParent {reference : Option String} (h : Filling c l)
    (hl : l.setParent current c reference = .ok l') : Filling c l' := by
  cases reference with
  | none =>
    obtain rfl := Except.ok.inj hl
    exact h
  | some reference =>
    simp only [Loader.setParent, bind_eq_ok_iff, pure, Except.pure, Except.ok.injEq] at hl
    obtain ⟨parent, hparent, rfl⟩ := hl
    have hissued := h.grown.classes _ parent (follow_eq_ok_iff.1 hparent)
    exact h.perform (.setParent c parent) (by simpa [Draft.Call.target?] using h.owner)
      (by simpa [Draft.Call.stored] using hissued) trivial

theorem Filling.setDefaults {part : Option DefaultsPart} (h : Filling c l)
    (hl : l.setDefaults c part = .ok l') : Filling c l' := by
  cases part with
  | none =>
    obtain rfl := Except.ok.inj hl
    exact h
  | some part =>
    simp only [Loader.setDefaults, bind_eq_ok_iff, pure, Except.pure, Except.ok.injEq] at hl
    obtain ⟨defaults, -, rfl⟩ := hl
    exact h.perform (.setClassDefaults c defaults)
      (by simpa [Draft.Call.target?] using h.owner) (by simp [Draft.Call.stored]) trivial

theorem Grown.defineClass {p : ClassPart} (h : l.Grown)
    (hl : l.defineClass current p = .ok l') : l'.Grown := by
  simp only [Loader.defineClass, bind_eq_ok_iff] at hl
  obtain ⟨c, hc, l₁, h₁, l₂, h₂, h₃⟩ := hl
  have h₀ : Filling c l := ⟨h, h.classes _ c (follow_eq_ok_iff.1 hc)⟩
  have h₁ : Filling c l₁ := h₀.setParent h₁
  have hfinal := h₁.perform (.setFinal c p.isFinal)
    (by simpa [Draft.Call.target?] using h₁.owner) (by simp [Draft.Call.stored]) trivial
  have h₂ : Filling c l₂ := hfinal.setDefaults h₂
  have h₃ : Filling c l' := foldlM_keeps (fun _ _ _ _ ha => ha.addField) h₂ h₃
  exact h₃.grown

theorem Grown.definePackage {p : PackagePart} (h : l.Grown)
    (hl : l.definePackage p = .ok l') : l'.Grown := by
  simp only [Loader.definePackage, bind_eq_ok_iff] at hl
  obtain ⟨l₁, h₁, h₂⟩ := hl
  have h₁ : l₁.Grown := foldlM_keeps (fun _ _ _ _ ha => ha.defineTypedef) h h₁
  exact foldlM_keeps (fun _ _ _ _ ha => ha.defineClass) h₁ h₂

end SecondPass

end Loader

/-- A document is loaded if both passes succeed and its draft can be finished. -/
theorem load_eq_ok_iff {d : Document} {s : Schema} : load d = .ok s ↔ ∃ l₀ l,
    d.packages.foldlM Loader.declarePackage {} = .ok l₀ ∧
    d.packages.foldlM Loader.definePackage l₀ = .ok l ∧ l.draft.finish = .ok s := by
  have hfinish (l : Loader) :
      l.draft.finish.mapError LoadFault.draft = .ok s ↔ l.draft.finish = .ok s := by
    cases l.draft.finish <;> simp [Except.mapError]
  simp only [load, bind_eq_ok_iff, hfinish, exists_and_left]

/-- A document is loaded into what a grown loader's draft is finished into. -/
theorem exists_grown_of_load {d : Document} {s : Schema} (h : load d = .ok s) :
    ∃ l : Loader, l.Grown ∧ l.draft.finish = .ok s := by
  obtain ⟨l₁, l₂, h₁, h₂, hfinish⟩ := load_eq_ok_iff.1 h
  have hdeclared : l₁.Grown := foldlM_keeps (fun _ _ _ _ ha => ha.declarePackage) .empty h₁
  have hdefined : l₂.Grown := foldlM_keeps (fun _ _ _ _ ha => ha.definePackage) hdeclared h₂
  exact ⟨l₂, hdefined, hfinish⟩

/-- Every schema that a document is loaded into is well-formed, whatever the document's names
and references. -/
theorem wellFormed_of_load {d : Document} {s : Schema} (h : load d = .ok s) : s.WellFormed := by
  obtain ⟨l, hl, hfinish⟩ := exists_grown_of_load h
  exact hl.draft.wellFormed hfinish

theorem wellFormed_of_loadText {text : String} {s : Schema} (h : loadText text = .ok s) :
    s.WellFormed := by
  obtain ⟨d, -, hload⟩ := bind_eq_ok_iff.1 h
  exact wellFormed_of_load hload

theorem packaged_of_load {d : Document} {s : Schema} (h : load d = .ok s) : s.Packaged := by
  obtain ⟨l, hl, hfinish⟩ := exists_grown_of_load h
  exact hl.packaged.finish hfinish

end SchemaTypes.Document
