/-
The second pass of a loader fills what the first one declared.

`Filled d k cs` says what a loader holds when the first `k` typedefs of a
document are defined and its classes are filled as far as the parts `cs` tell:
the parts of those that are not filled yet are blank. Each step of the pass
defines one more typedef or writes one more thing into the part of one class.

A declaration is found again by its name, read as a reference. That leads back
to it if the name has no dot. With a dot it leads to nothing, unless there is
another declaration for which it can be taken, and that case is left out here.
-/
import SchemaTypes.Proofs.FirstPass

namespace SchemaTypes.Document

variable {d : Document} {l : Loader}

/-! ## References and types -/

/-- The loader finds every declaration of the document by its names. -/
structure Informed (d : Document) (l : Loader) : Prop where
  enums : Knows l.enums .mk d.enumNames
  typedefs : Knows l.typedefs .mk d.typedefNames
  classes : Knows l.classes .mk d.classNames

namespace Informed

variable {around : String}

theorem elementaryOf (h : Informed d l) (p : ElementaryPart) :
    Outcome (TypePart.Acceptable d around (.elementary p)) (p.Means d around)
      (l.elementaryOf around p) := by
  unfold Loader.elementaryOf TypePart.Acceptable
  refine (settingOf_outcome _ _).bind fun signedness _ hsignedness => ?_
  refine (settingOf_outcome _ _).bind fun trimming _ htrimming => ?_
  refine (settingOf_outcome _ _).bind fun controlChars _ hcontrolChars => ?_
  have henumeration : Outcome
      (∀ reference ∈ p.enumeration, .ofReference around reference ∈ d.enumNames)
      (· = p.enumeration.bind (d.enumOf? around)) (p.enumeration.mapM (l.enumOf around)) := by
    cases p.enumeration with
    | none => exact .ok (by simp) rfl
    | some reference =>
      refine ((h.enums.follow_outcome .enumeration around reference).map fun e he => ?_).congr
        (by simp)
      exact ⟨some e, rfl, he.symm⟩
  exact henumeration.map fun e he =>
    ⟨_, rfl, rfl, rfl, rfl, hsignedness, htrimming, hcontrolChars, he⟩

/-- Reading a type changes nothing of the loader but the name table of its draft. -/
theorem formOf (h : Informed d l) (type : TypePart) :
    Outcome (type.Acceptable d around)
      (fun r => type.Means d around r.1 ∧ r.2.1 = type.span? ∧
        ∃ names, r.2.2 = { l with draft := { l.draft with names } })
      (l.formOf around type) := by
  cases type with
  | elementary p =>
    exact (h.elementaryOf p).map fun e he => ⟨_, rfl, .elementary he, rfl, _, rfl⟩
  | object reference =>
    refine (h.classes.follow_outcome .classDecl around reference).map fun c hc => ⟨_, rfl, ?_⟩
    exact ⟨.object hc, rfl, _, rfl⟩
  | typedef reference =>
    refine (h.typedefs.follow_outcome .typedef around reference).map fun t ht => ⟨_, rfl, ?_⟩
    exact ⟨.typedef ht, rfl, _, rfl⟩

end Informed

/-! ## What is filled -/

/-- A typedef of a draft when the first `k` typedefs are defined. -/
structure PendingMatches (d : Document) (dataTypes : Array DataType) (k i : Nat)
    (x : Placed TypedefPart) (t : DraftTypedef) : Prop where
  name : t.name = x.part.name
  package : t.package = some x.package
  span : t.span = x.part.span.getD .absent
  defined : i < k → ∃ id, t.dataType = some id ∧
    WrittenAs d dataTypes (.typedef ⟨i⟩) x.around x.part.type id
  undefined : k ≤ i → t.dataType = none

/-- The data type that a draft has for an owner. -/
def pendingTypeOf? (fields : Array FieldDecl) (typedefs : Array DraftTypedef) :
    TypeOwner → Option DataTypeId
  | .field f => fields[f.index]?.map (·.dataType)
  | .typedef t => typedefs[t.index]?.bind (·.dataType)

structure Filled (d : Document) (k : Nat) (cs : List (Placed ClassPart)) (l : Loader) : Prop where
  informed : Informed d l
  packages : Corresponds (fun _ => PackageMatches) d.packages l.draft.packages
  enums : l.draft.enums.toList = d.enums.map (·.enumDecl)
  redefined : l.draft.redefined = none
  typedefs : Corresponds (PendingMatches d l.draft.dataTypes k) d.typedefs l.draft.typedefs
  classes : Corresponds (fun _ => ClassMatches d) cs l.draft.classes
  fields : Corresponds (FieldMatches d l.draft.dataTypes l.draft.classes) (fieldsOf cs)
    l.draft.fields
  dataTypes : ∀ n x, l.draft.dataTypes[n]? = some x →
    pendingTypeOf? l.draft.fields l.draft.typedefs x.owner = some ⟨n⟩

/-! ## New data types -/

section DataTypes

variable {dataTypes : Array DataType} {owner : TypeOwner} {around : String} {type : TypePart}
  {id : DataTypeId}

theorem getElem?_push_of_some {α : Type} {xs : Array α} {i : Nat} {x : α} (h : xs[i]? = some x)
    (y : α) : (xs.push y)[i]? = some x := by
  have hlt := (Array.getElem?_eq_some_iff.1 h).1
  rw [Array.getElem?_push, if_neg (by omega), h]

theorem WrittenAs.push (h : WrittenAs d dataTypes owner around type id) (x : DataType) :
    WrittenAs d (dataTypes.push x) owner around type id := by
  obtain ⟨form, hform, hid⟩ := h
  exact ⟨form, hform, getElem?_push_of_some hid x⟩

theorem WrittenAs.new {form : TypeForm} (hform : type.Means d around form) :
    WrittenAs d (dataTypes.push { form, owner, span := type.span?.getD .absent }) owner around type
      ⟨dataTypes.size⟩ :=
  ⟨form, hform, Array.getElem?_push_size⟩

theorem PendingMatches.push {k i : Nat} {x : Placed TypedefPart} {t : DraftTypedef}
    (h : PendingMatches d dataTypes k i x t) (y : DataType) :
    PendingMatches d (dataTypes.push y) k i x t :=
  { h with
    defined := fun hi =>
      let ⟨id, hid, hwritten⟩ := h.defined hi
      ⟨id, hid, hwritten.push y⟩ }

theorem FieldMatches.push {classes : Array ClassDecl} {i : Nat} {x : PlacedField} {f : FieldDecl}
    (h : FieldMatches d dataTypes classes i x f) (y : DataType) :
    FieldMatches d (dataTypes.push y) classes i x f :=
  { h with dataType := h.dataType.push y }

end DataTypes

/-! ## Typedefs -/

theorem place_define (draft : Draft) {t : TypedefId} {pending : DraftTypedef}
    (hpending : draft.typedefs[t.index]? = some pending) (hnone : pending.dataType = none)
    (form : TypeForm) (span : Option Span) :
    place (draft.define t form).2 (.dataType (draft.define t form).1) span =
      { draft with
        typedefs := draft.typedefs.modify t.index fun p =>
          { p with dataType := some ⟨draft.dataTypes.size⟩ }
        dataTypes := draft.dataTypes.push
          { form, owner := .typedef t, span := span.getD .absent } } := by
  cases span with
  | none => simp [place, Draft.define, Draft.addDataType, hpending, hnone]
  | some span =>
    simp [place, Draft.define, Draft.addDataType, hpending, hnone, Draft.setSpan, modify_push_size]

namespace Filled

variable {k : Nat} {cs : List (Placed ClassPart)}

theorem typedefOf (h : Filled d k cs l) (hnames : d.typedefNames.Nodup) {i : Nat}
    {x : Placed TypedefPart} (hx : d.typedefs[i]? = some x)
    (hname : '.' ∈ x.part.name.toList → .ofReference x.around x.part.name ∉ d.typedefNames) :
    Outcome ('.' ∉ x.part.name.toList) (· = ⟨i⟩) (l.typedefOf x.around x.part.name) :=
  h.informed.typedefs.find_outcome hnames hx hname

variable {before after : List (Placed TypedefPart)} {x : Placed TypedefPart}

/-- The next typedef has no data type yet. -/
theorem exists_pending (h : Filled d before.length cs l)
    (hsplit : d.typedefs = before ++ x :: after) :
    ∃ pending, l.draft.typedefs[before.length]? = some pending ∧ pending.dataType = none := by
  have hlt : before.length < l.draft.typedefs.size := by simp [h.typedefs.size_eq, hsplit]
  have hpending := Array.getElem?_eq_getElem hlt
  exact ⟨_, hpending, (h.typedefs.rel _ x _ (by simp [hsplit]) hpending).undefined (Nat.le_refl _)⟩

theorem define (h : Filled d before.length cs l) (hsplit : d.typedefs = before ++ x :: after)
    {form : TypeForm} (hform : x.part.type.Means d x.around form) (names : NameTable) :
    Filled d (before.length + 1) cs { l with
      draft := { l.draft with
        names
        typedefs := l.draft.typedefs.modify before.length fun p =>
          { p with dataType := some ⟨l.draft.dataTypes.size⟩ }
        dataTypes := l.draft.dataTypes.push
          { form, owner := .typedef ⟨before.length⟩,
            span := x.part.type.span?.getD .absent } } } := by
  obtain ⟨pending, hpending, hnone⟩ := h.exists_pending hsplit
  have htypedefs := h.typedefs
  rw [hsplit] at htypedefs
  have hmodified : Corresponds (PendingMatches d (l.draft.dataTypes.push
        { form, owner := .typedef ⟨before.length⟩, span := x.part.type.span?.getD .absent })
        (before.length + 1)) (before ++ x :: after)
      (l.draft.typedefs.modify before.length fun p =>
        { p with dataType := some ⟨l.draft.dataTypes.size⟩ }) := by
    refine htypedefs.modify (fun i a b hi hab => ?_) fun y hy => ?_
    · exact ⟨hab.name, hab.package, hab.span, fun hlt => (hab.push _).defined (by omega),
        fun hle => hab.undefined (by omega)⟩
    · exact ⟨hy.name, hy.package, hy.span, fun _ => ⟨_, rfl, .new hform⟩,
        fun hle => absurd hle (by omega)⟩
  refine { h with informed := ⟨h.informed.1, h.informed.2, h.informed.3⟩,
                  typedefs := hsplit ▸ hmodified,
                  fields := h.fields.imp fun _ _ _ hf => hf.push _, dataTypes := ?_ }
  intro n y hy
  rw [Array.getElem?_push] at hy
  split at hy
  · next hn =>
    obtain rfl := Option.some.inj hy
    simp [pendingTypeOf?, Array.getElem?_modify, hpending, hn]
  · have hold := h.dataTypes n y hy
    cases howner : y.owner with
    | field f => simpa [howner, pendingTypeOf?] using hold
    | typedef t =>
      -- The typedef had no data type before, so no old one can have it as its owner.
      have hne : before.length ≠ t.index := by
        intro heq
        simp [howner, pendingTypeOf?, ← heq, hpending, hnone] at hold
      simpa [howner, pendingTypeOf?, Array.getElem?_modify, hne] using hold

theorem defineTypedef (h : Filled d before.length cs l) (hnames : d.typedefNames.Nodup)
    (hsplit : d.typedefs = before ++ x :: after)
    (hname : '.' ∈ x.part.name.toList → .ofReference x.around x.part.name ∉ d.typedefNames) :
    Outcome ('.' ∉ x.part.name.toList ∧ x.part.type.Acceptable d x.around)
      (Filled d (before.length + 1) cs) (l.defineTypedef x.around x.part) := by
  have hx : d.typedefs[before.length]? = some x := by simp [hsplit]
  unfold Loader.defineTypedef
  refine (h.typedefOf hnames hx hname).bind fun _ _ hid => ?_
  subst hid
  refine (h.informed.formOf x.part.type).map fun ⟨form, span, l'⟩ ⟨hform, hspan, names, hl'⟩ => ?_
  obtain rfl : span = x.part.type.span? := hspan
  obtain rfl : l' = _ := hl'
  obtain ⟨pending, hpending, hnone⟩ := h.exists_pending hsplit
  have hplaced := congrArg (fun draft : Draft => ({ l with draft } : Loader))
    (place_define { l.draft with names } (t := ⟨before.length⟩) hpending hnone form
      x.part.type.span?)
  exact ⟨_, congrArg Except.ok hplaced, h.define hsplit hform names⟩

end Filled

/-! ## Fields -/

/-- While a class is filled, the classes after it have no fields yet. -/
theorem fieldsOf_filling (before : List (Placed ClassPart)) (x : Placed ClassPart)
    {after : List (Placed ClassPart)} (hafter : ∀ y ∈ after, y.part.fields = []) :
    fieldsOf (before ++ x :: after) = fieldsOf before ++
      x.part.fields.zipIdx.map fun (f, k) => ⟨⟨before.length⟩, k, x.around, f⟩ := by
  have hnone : (after.zipIdx (before.length + 1)).flatMap (fun y =>
      y.1.part.fields.zipIdx.map fun f => (⟨⟨y.2⟩, f.2, y.1.around, f.1⟩ : PlacedField)) = [] := by
    rw [List.flatMap_eq_nil_iff]
    rintro ⟨y, c⟩ hy
    have hmem : y ∈ after := List.fst_mem_of_mem_zipIdx hy
    simp [hafter y hmem]
  simp [fieldsOf, List.zipIdx_append, hnone]

theorem fieldsOf_snoc (before : List (Placed ClassPart)) (x : Placed ClassPart)
    {after : List (Placed ClassPart)} (hafter : ∀ y ∈ after, y.part.fields = []) (f : FieldPart) :
    fieldsOf
        (before ++ { x with part := { x.part with fields := x.part.fields ++ [f] } } :: after) =
      fieldsOf (before ++ x :: after) ++
        [⟨⟨before.length⟩, x.part.fields.length, x.around, f⟩] := by
  simp [fieldsOf_filling before _ hafter, List.zipIdx_append]

theorem place_addField (draft : Draft) (owner : ClassId) (name : String) (form : TypeForm)
    (typeSpan span : Option Span) :
    place (place (draft.addField owner name form).2 (.dataType ⟨draft.dataTypes.size⟩) typeSpan)
        (.field ⟨draft.fields.size⟩) span =
      { draft with
        names := draft.names.insert name
        classes := draft.classes.modify owner.index fun c =>
          { c with fields := c.fields.push ⟨draft.fields.size⟩ }
        fields := draft.fields.push
          { name, owner, dataType := ⟨draft.dataTypes.size⟩, span := span.getD .absent }
        dataTypes := draft.dataTypes.push
          { form, owner := .field ⟨draft.fields.size⟩, span := typeSpan.getD .absent } } := by
  cases typeSpan <;> cases span <;>
    simp [place, Draft.addField, Draft.addDataType, Draft.addName, Draft.setSpan, modify_push_size]

namespace Filled

variable {k : Nat} {before after : List (Placed ClassPart)} {x : Placed ClassPart}

/-- A change of a class's record, its fields aside. -/
theorem modifyClass (h : Filled d k (before ++ x :: after) l) {x' : Placed ClassPart}
    {g : ClassDecl → ClassDecl} (hafter : ∀ y ∈ after, y.part.fields = [])
    (haround : x'.around = x.around) (hfields : x'.part.fields = x.part.fields)
    (hg : ∀ c, (g c).fields = c.fields)
    (hmatches : ∀ c, ClassMatches d x c → ClassMatches d x' (g c)) :
    Filled d k (before ++ x' :: after)
      { l with draft := { l.draft with classes := l.draft.classes.modify before.length g } } := by
  have hsame : fieldsOf (before ++ x' :: after) = fieldsOf (before ++ x :: after) := by
    rw [fieldsOf_filling before _ hafter, fieldsOf_filling before _ hafter, hfields, haround]
  have hlisted (i : Nat) (place : Nat) :
      ((l.draft.classes.modify before.length g)[i]?.bind fun c => c.fields[place]?) =
        l.draft.classes[i]?.bind fun c => c.fields[place]? := by
    rw [Array.getElem?_modify]
    split
    · cases l.draft.classes[i]? <;> simp [hg]
    · rfl
  have hclasses : Corresponds (fun _ => ClassMatches d) (before ++ x' :: after)
      (l.draft.classes.modify before.length g) :=
    h.classes.modify (fun _ _ _ _ hab => hab) hmatches
  refine { h with informed := ⟨h.informed.1, h.informed.2, h.informed.3⟩, classes := hclasses,
                  fields := ?_ }
  rw [hsame]
  exact h.fields.imp fun i y f hf => { hf with listed := (hlisted _ _).trans hf.listed }

theorem setParent (h : Filled d k (before ++ x :: after) l)
    (hafter : ∀ y ∈ after, y.part.fields = []) (hx : x.part.parent = none)
    (reference : Option String) :
    Outcome (∀ r ∈ reference, .ofReference x.around r ∈ d.classNames)
      (Filled d k (before ++ { x with part := { x.part with parent := reference } } :: after))
      (l.setParent x.around ⟨before.length⟩ reference) := by
  cases reference with
  | none =>
    refine .ok (by simp) ?_
    rw [← hx]
    exact h
  | some reference =>
    refine ((h.informed.classes.follow_outcome .classDecl x.around reference).map
      fun parent hparent => ⟨_, rfl, ?_⟩).congr (by simp)
    refine h.modifyClass hafter rfl rfl (fun _ => rfl) fun c hc => { hc with parent := ?_ }
    simp [classOf?, hparent]

theorem setFinal (h : Filled d k (before ++ x :: after) l)
    (hafter : ∀ y ∈ after, y.part.fields = []) (isFinal : Bool) :
    Filled d k (before ++ { x with part := { x.part with isFinal } } :: after)
      { l with draft := l.draft.setFinal ⟨before.length⟩ isFinal } :=
  h.modifyClass hafter rfl rfl (fun _ => rfl) fun _ hc => { hc with isFinal := rfl }

theorem setDefaults (h : Filled d k (before ++ x :: after) l)
    (hafter : ∀ y ∈ after, y.part.fields = []) (hx : x.part.defaults = none)
    (part : Option DefaultsPart) :
    Outcome (∀ block ∈ part, block.Acceptable)
      (Filled d k (before ++ { x with part := { x.part with defaults := part } } :: after))
      (l.setDefaults ⟨before.length⟩ part) := by
  cases part with
  | none =>
    refine .ok (by simp) ?_
    rw [← hx]
    exact h
  | some block =>
    refine ((defaultsOf_outcome block).map fun defaults hmeans => ⟨_, rfl, ?_⟩).congr (by simp)
    exact h.modifyClass hafter rfl rfl (fun _ => rfl) fun _ hc => { hc with defaults := .some hmeans }

theorem pushField (h : Filled d k (before ++ x :: after) l)
    (hafter : ∀ y ∈ after, y.part.fields = []) {p : FieldPart} {form : TypeForm}
    (hform : p.type.Means d x.around form) {required : Option Required}
    (hrequired : Says p.required required) (names : NameTable) :
    Filled d k
      (before ++ { x with part := { x.part with fields := x.part.fields ++ [p] } } :: after)
      { l with
        draft := { l.draft with
          names
          classes := l.draft.classes.modify before.length fun c =>
            { c with fields := c.fields.push ⟨l.draft.fields.size⟩ }
          fields := l.draft.fields.push
            { name := p.name, owner := ⟨before.length⟩, dataType := ⟨l.draft.dataTypes.size⟩,
              required, span := p.span.getD .absent }
          dataTypes := l.draft.dataTypes.push
            { form, owner := .field ⟨l.draft.fields.size⟩,
              span := p.type.span?.getD .absent } } } := by
  have hclasses : Corresponds (fun _ => ClassMatches d)
      (before ++ { x with part := { x.part with fields := x.part.fields ++ [p] } } :: after)
      (l.draft.classes.modify before.length fun c =>
        { c with fields := c.fields.push ⟨l.draft.fields.size⟩ }) := by
    refine h.classes.modify (fun _ _ _ _ hab => hab) fun c hc => { hc with fields := ?_ }
    simp [hc.fields]
  -- What a class listed before is listed at the same place.
  have hlisted {i place : Nat} {id : FieldId}
      (hold : (l.draft.classes[i]?.bind fun c => c.fields[place]?) = some id) :
      ((l.draft.classes.modify before.length fun c =>
        { c with fields := c.fields.push ⟨l.draft.fields.size⟩ })[i]?.bind
          fun c => c.fields[place]?) = some id := by
    obtain ⟨c, hc, hplace⟩ := Option.bind_eq_some_iff.1 hold
    rw [Array.getElem?_modify]
    split
    · simpa [hc] using getElem?_push_of_some hplace _
    · exact hold
  have hnew : ((l.draft.classes.modify before.length fun c =>
      { c with fields := c.fields.push ⟨l.draft.fields.size⟩ })[before.length]?.bind
        fun c => c.fields[x.part.fields.length]?) = some ⟨l.draft.fields.size⟩ := by
    have hlt : before.length < l.draft.classes.size := by simp [h.classes.size_eq]
    have hc := Array.getElem?_eq_getElem hlt
    have hsize := (h.classes.rel _ x _ (by simp) hc).fields
    simp [Array.getElem?_modify, hc, ← hsize]
  refine { h with informed := ⟨h.informed.1, h.informed.2, h.informed.3⟩, classes := hclasses,
                  typedefs := h.typedefs.imp fun _ _ _ ht => ht.push _,
                  fields := ?_, dataTypes := ?_ }
  · rw [fieldsOf_snoc before x hafter p]
    refine (h.fields.imp fun i y f hf =>
      { hf.push _ with listed := hlisted hf.listed }).push ?_
    rw [← h.fields.size_eq]
    exact ⟨rfl, rfl, hrequired, rfl, .new hform, hnew⟩
  · intro n y hy
    rw [Array.getElem?_push] at hy
    split at hy
    · next hn =>
      obtain rfl := Option.some.inj hy
      simp [pendingTypeOf?, hn]
    · have hold := h.dataTypes n y hy
      cases howner : y.owner with
      | typedef t => simpa [howner, pendingTypeOf?] using hold
      | field f =>
        rw [howner, pendingTypeOf?, Option.map_eq_some_iff] at hold
        obtain ⟨decl, hdecl, hid⟩ := hold
        simp [pendingTypeOf?, getElem?_push_of_some hdecl, hid]

theorem addField (h : Filled d k (before ++ x :: after) l)
    (hafter : ∀ y ∈ after, y.part.fields = []) (p : FieldPart) :
    Outcome (p.Acceptable d x.around)
      (Filled d k
        (before ++ { x with part := { x.part with fields := x.part.fields ++ [p] } } :: after))
      (l.addField x.around ⟨before.length⟩ p) := by
  rw [FieldPart.acceptable_iff]
  unfold Loader.addField
  refine (h.informed.formOf p.type).bind fun ⟨form, span, l'⟩ _ ⟨hform, hspan, names, hl'⟩ => ?_
  obtain rfl : span = p.type.span? := hspan
  obtain rfl : l' = _ := hl'
  refine (settingOf_outcome "required" p.required).map fun marker hmarker => ?_
  have hplaced := place_addField { l.draft with names } ⟨before.length⟩ p.name form p.type.span?
    p.span
  have hpushed := h.pushField hafter hform hmarker (names.insert p.name)
  cases marker with
  | none =>
    have hunmarked := congrArg (fun draft : Draft => ({ l with draft } : Loader)) hplaced
    exact ⟨_, congrArg Except.ok hunmarked, hpushed⟩
  | some marker =>
    have hmarked := congrArg (fun draft : Draft =>
      ({ l with draft := draft.setRequired ⟨l.draft.fields.size⟩ marker } : Loader)) hplaced
    refine ⟨_, congrArg Except.ok hmarked, ?_⟩
    simpa [Draft.setRequired, modify_push_size] using hpushed

theorem classOf (h : Filled d k cs l) (hnames : d.classNames.Nodup) {i : Nat}
    {x : Placed ClassPart} (hx : d.classes[i]? = some x)
    (hname : '.' ∈ x.part.name.toList → .ofReference x.around x.part.name ∉ d.classNames) :
    Outcome ('.' ∉ x.part.name.toList) (· = ⟨i⟩) (l.classOf x.around x.part.name) :=
  h.informed.classes.find_outcome hnames hx hname

end Filled

/-! ## Classes -/

/-- The part of a class of which nothing is filled yet. -/
def Placed.blank (x : Placed ClassPart) : Placed ClassPart :=
  { x with part := { name := x.part.name, span := x.part.span } }

/-- The classes of a document when the first ones are filled. -/
def classesUpTo (d : Document) (cs : List (Placed ClassPart)) : List (Placed ClassPart) :=
  cs ++ (d.classes.drop cs.length).map (·.blank)

namespace Filled

variable {k : Nat} {ps rest : List PackagePart} {p : PackagePart}

/-- The next class gets everything that its part tells. -/
theorem defineClass {before after : List (Placed ClassPart)} {x : Placed ClassPart}
    (h : Filled d k (d.classesUpTo before) l) (hnames : d.classNames.Nodup)
    (hsplit : d.classes = before ++ x :: after)
    (hname : '.' ∈ x.part.name.toList → .ofReference x.around x.part.name ∉ d.classNames) :
    Outcome ('.' ∉ x.part.name.toList ∧ x.part.Acceptable d x.around)
      (Filled d k (d.classesUpTo (before ++ [x]))) (l.defineClass x.around x.part) := by
  have hbefore : d.classesUpTo before = before ++ x.blank :: after.map (·.blank) := by
    simp [classesUpTo, hsplit]
  have hdone : d.classesUpTo (before ++ [x]) = before ++ x :: after.map (·.blank) := by
    simp [classesUpTo, hsplit, List.drop_append]
  have hafter : ∀ y ∈ after.map (·.blank), y.part.fields = [] := by
    simp [Placed.blank]
  rw [hbefore] at h
  rw [hdone, ClassPart.acceptable_iff]
  unfold Loader.defineClass
  refine (h.classOf hnames (i := before.length) (by simp [hsplit]) hname).bind fun _ _ hid => ?_
  subst hid
  refine (h.setParent hafter rfl x.part.parent).bind fun l₁ _ h₁ => ?_
  have h₂ := h₁.setFinal hafter x.part.isFinal
  refine (h₂.setDefaults hafter rfl x.part.defaults).bind fun l₃ _ h₃ => ?_
  refine (Outcome.foldlM (fun done => ∀ f ∈ done, f.Acceptable d x.around)
    (fun done => Filled d k (before ++ { x with part := { x.part with fields := done } } ::
      after.map (·.blank))) (fun done f hall g hg => hall g (List.mem_append_left _ hg)) (by simp)
    h₃ fun done f rest l' _ hall hl' => ?_)
  refine (hl'.addField hafter f).congr ?_
  rw [List.forall_mem_append, List.forall_mem_singleton, and_iff_right hall]

/-! ## Packages -/

theorem defineTypedefs {cs : List (Placed ClassPart)}
    (h : Filled d (members PackagePart.typedefs ps).length cs l) (hnames : d.typedefNames.Nodup)
    (hsplit : d.packages = ps ++ p :: rest) (hp : p.Unmistakable d) :
    Outcome (∀ t ∈ p.typedefs, '.' ∉ t.name.toList ∧ t.type.Acceptable d p.name)
      (Filled d (members PackagePart.typedefs (ps ++ [p])).length cs)
      (p.typedefs.foldlM (Loader.defineTypedef p.name) l) := by
  rw [members_concat]
  refine Outcome.foldlM
    (fun done => ∀ t ∈ done, '.' ∉ t.name.toList ∧ t.type.Acceptable d p.name)
    (fun done => Filled d (members PackagePart.typedefs ps ++
      done.map (Placed.mk ⟨ps.length⟩ p.name)).length cs)
    (fun done t hall u hu => hall u (List.mem_append_left _ hu)) (by simp) (by simpa using h)
    fun done t more l' htypedefs hall hl' => ?_
  obtain ⟨after, hcut⟩ := exists_members_cut hsplit htypedefs
  have hstep := hl'.defineTypedef hnames hcut (hp.typedefs t (by simp [htypedefs]))
  rw [List.forall_mem_append, List.forall_mem_singleton, and_iff_right hall]
  simpa [Nat.add_assoc] using hstep

theorem defineClasses
    (h : Filled d k (d.classesUpTo (members PackagePart.classes ps)) l)
    (hnames : d.classNames.Nodup) (hsplit : d.packages = ps ++ p :: rest)
    (hp : p.Unmistakable d) :
    Outcome (∀ c ∈ p.classes, '.' ∉ c.name.toList ∧ c.Acceptable d p.name)
      (Filled d k (d.classesUpTo (members PackagePart.classes (ps ++ [p]))))
      (p.classes.foldlM (Loader.defineClass p.name) l) := by
  rw [members_concat]
  refine Outcome.foldlM (fun done => ∀ c ∈ done, '.' ∉ c.name.toList ∧ c.Acceptable d p.name)
    (fun done => Filled d k (d.classesUpTo (members PackagePart.classes ps ++
      done.map (Placed.mk ⟨ps.length⟩ p.name))))
    (fun done c hall x hx => hall x (List.mem_append_left _ hx)) (by simp) (by simpa using h)
    fun done c more l' hclasses hall hl' => ?_
  obtain ⟨after, hcut⟩ := exists_members_cut hsplit hclasses
  have hstep := hl'.defineClass hnames hcut (hp.classes c (by simp [hclasses]))
  rw [List.forall_mem_append, List.forall_mem_singleton, and_iff_right hall]
  simpa using hstep

/-- One more package: its typedefs and then its classes. -/
theorem definePackage
    (h : Filled d (members PackagePart.typedefs ps).length
      (d.classesUpTo (members PackagePart.classes ps)) l) (hd : d.Unmistakable)
    (htypedefNames : d.typedefNames.Nodup) (hclassNames : d.classNames.Nodup)
    (hsplit : d.packages = ps ++ p :: rest) :
    Outcome (p.Dotless ∧ p.Definable d)
      (Filled d (members PackagePart.typedefs (ps ++ [p])).length
        (d.classesUpTo (members PackagePart.classes (ps ++ [p])))) (l.definePackage p) := by
  have hp : p.Unmistakable d := hd p (by simp [hsplit])
  have hiff : ((∀ t ∈ p.typedefs, '.' ∉ t.name.toList ∧ t.type.Acceptable d p.name) ∧
      ∀ c ∈ p.classes, '.' ∉ c.name.toList ∧ c.Acceptable d p.name) ↔
      p.Dotless ∧ p.Definable d := by
    rw [PackagePart.dotless_iff, PackagePart.definable_iff, and_and_and_comm]
    simp only [forall_and]
  unfold Loader.definePackage
  refine ((h.defineTypedefs htypedefNames hsplit hp).bind fun l₁ _ h₁ => ?_).congr hiff
  exact h₁.defineClasses hclassNames hsplit hp

end Filled

theorem fieldsOf_blank (cs : List (Placed ClassPart)) : fieldsOf (cs.map (·.blank)) = [] := by
  rw [fieldsOf, List.flatMap_eq_nil_iff]
  rintro ⟨y, c⟩ hy
  obtain ⟨x, -, rfl⟩ := List.mem_map.1 (List.fst_mem_of_mem_zipIdx hy)
  simp [Placed.blank]

/-- A loader that has declared a document has filled nothing of it. -/
theorem Declared.filled (h : Declared d.packages d.enums d.typedefs d.classes l) :
    Filled d 0 (d.classesUpTo []) l where
  informed := ⟨h.enumNames, h.typedefNames, h.classNames⟩
  packages := h.packages
  enums := h.enums
  redefined := h.redefined
  typedefs := by
    rw [← List.map_id d.typedefs]
    exact .of_map h.typedefs fun i x => ⟨rfl, rfl, rfl, fun hi => absurd hi (Nat.not_lt_zero i),
      fun _ => rfl⟩
  classes := .of_map h.classes fun _ _ => ⟨rfl, rfl, rfl, rfl, rfl, .none, rfl⟩
  fields := by
    rw [classesUpTo, List.nil_append, fieldsOf_blank, h.fields]
    exact ⟨rfl, fun i x y hx => by simp at hx⟩
  dataTypes n x hx := by simp [h.dataTypes] at hx

/-- The second pass succeeds if every type, setting and reference in it makes sense and no name
has a dot, and leaves everything filled. -/
theorem define_outcome (hd : d.Unmistakable) (htypedefNames : d.typedefNames.Nodup)
    (hclassNames : d.classNames.Nodup)
    (h : Declared d.packages d.enums d.typedefs d.classes l) :
    Outcome (∀ p ∈ d.packages, p.Dotless ∧ p.Definable d) (Filled d d.typedefs.length d.classes)
      (d.packages.foldlM Loader.definePackage l) := by
  have hall : d.classesUpTo d.classes = d.classes := by simp [classesUpTo]
  rw [← hall]
  refine Outcome.foldlM (fun ps : List PackagePart => ∀ p ∈ ps, p.Dotless ∧ p.Definable d)
    (fun ps => Filled d (members PackagePart.typedefs ps).length
      (d.classesUpTo (members PackagePart.classes ps)))
    (fun ps p hps q hq => hps q (List.mem_append_left _ hq)) (by simp) h.filled
    fun ps p rest l' hsplit hps hl' => ?_
  refine (hl'.definePackage hd htypedefNames hclassNames hsplit).congr ?_
  rw [List.forall_mem_append, List.forall_mem_singleton, and_iff_right hps]

end SchemaTypes.Document
