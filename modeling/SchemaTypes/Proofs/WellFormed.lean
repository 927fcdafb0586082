/-
Well-formed schemas: those that calls to a draft have built and in which no
handle dangles.

Closedness is what the look-ups need: each of the lemmas below says that the
node behind one kind of handle is there, so that what is computed from it is
never `none`. The history is needed only for what two tables say of each
other (`WellFormed.mem_fields_iff`, `WellFormed.fields_nodup`).
-/
import SchemaTypes.Proofs.DraftCalls
import Mathlib.Data.List.Nodup

namespace SchemaTypes

/-! ## The handles of a schema -/

def TypeForm.handles : TypeForm → List Node
  | .elementary e => (e.enumeration.map .enumDecl).toList
  | .object c => [.classDecl c]
  | .alias t => [.typedef t]

def TypeOwner.node : TypeOwner → Node
  | .field f => .field f
  | .typedef t => .typedef t

def DataType.handles (d : DataType) : List Node :=
  d.owner.node :: d.form.handles

def ClassDecl.handles (c : ClassDecl) : List Node :=
  (c.package.map .package).toList ++ (c.parent.map .classDecl).toList ++ c.fields.toList.map .field

def FieldDecl.handles (f : FieldDecl) : List Node :=
  [.classDecl f.owner, .dataType f.dataType]

def TypedefDecl.handles (t : TypedefDecl) : List Node :=
  .dataType t.dataType :: (t.package.map .package).toList

def EnumDecl.handles (e : EnumDecl) : List Node :=
  (e.package.map .package).toList

namespace Draft

/-- A finished typedef as its draft had it. -/
def unfinished (t : TypedefDecl) : DraftTypedef where
  name := t.name
  package := t.package
  dataType := some t.dataType
  span := t.span

theorem finishTypedef_eq_ok_iff {t : DraftTypedef} {decl : TypedefDecl} :
    finishTypedef t = .ok decl ↔ t = unfinished decl := by
  obtain ⟨name, package, dataType, span⟩ := t
  obtain ⟨name', package', dataType', span'⟩ := decl
  cases dataType <;> simp [finishTypedef, unfinished]

theorem mapM_finishTypedef_eq_ok_iff {ts : List DraftTypedef} : ∀ {decls : List TypedefDecl},
    ts.mapM finishTypedef = .ok decls ↔ ts = decls.map unfinished := by
  induction ts with
  | nil =>
    intro decls
    cases decls <;> simp [pure, Except.pure]
  | cons t ts ih =>
    intro decls
    rw [List.mapM_cons]
    cases decls with
    | nil =>
      cases finishTypedef t <;> cases ts.mapM finishTypedef <;>
        simp [bind, Except.bind, pure, Except.pure]
    | cons decl decls =>
      rw [List.map_cons, List.cons.injEq, ← ih, ← finishTypedef_eq_ok_iff]
      cases finishTypedef t <;> cases ts.mapM finishTypedef <;>
        simp [bind, Except.bind, pure, Except.pure]

end Draft

namespace Schema

/-- Every handle that stands in a declaration. -/
def handles (s : Schema) : List Node :=
  s.classes.toList.flatMap (·.handles) ++ s.fields.toList.flatMap (·.handles) ++
    s.typedefs.toList.flatMap (·.handles) ++ s.enums.toList.flatMap (·.handles) ++
    s.dataTypes.toList.flatMap (·.handles)

/-- Whether a handle lies in the schema's tables. -/
def has (s : Schema) : Node → Bool
  | .package p => p.index < s.packages.size
  | .classDecl c => c.index < s.classes.size
  | .field f => f.index < s.fields.size
  | .typedef t => t.index < s.typedefs.size
  | .enumDecl e => e.index < s.enums.size
  | .dataType d => d.index < s.dataTypes.size

/-- No handle dangles. -/
def Closed (s : Schema) : Prop :=
  ∀ n ∈ s.handles, s.has n

instance (s : Schema) : Decidable s.Closed :=
  inferInstanceAs (Decidable (∀ n ∈ s.handles, s.has n))

/-- What calls to a draft were finished into, with all handles issued by that draft. -/
structure WellFormed (s : Schema) : Prop where
  drafted : ∃ calls d, Draft.empty.replay calls = some d ∧ d.finish = .ok s
  closed : s.Closed

/-! ## Look-ups that find something -/

theorem lt_size_iff {α : Type} {xs : Array α} {i : Nat} : i < xs.size ↔ ∃ x, xs[i]? = some x := by
  rw [← Option.isSome_iff_exists, isSome_getElem?]

variable {s : Schema}

theorem exists_package {p : PackageId} (h : s.has (.package p)) : ∃ d, s.package? p = some d :=
  lt_size_iff.1 (of_decide_eq_true h)

theorem exists_class {c : ClassId} (h : s.has (.classDecl c)) : ∃ d, s.class? c = some d :=
  lt_size_iff.1 (of_decide_eq_true h)

theorem exists_field {f : FieldId} (h : s.has (.field f)) : ∃ d, s.field? f = some d :=
  lt_size_iff.1 (of_decide_eq_true h)

theorem exists_typedef {t : TypedefId} (h : s.has (.typedef t)) : ∃ d, s.typedef? t = some d :=
  lt_size_iff.1 (of_decide_eq_true h)

theorem exists_enum {e : EnumId} (h : s.has (.enumDecl e)) : ∃ d, s.enum? e = some d :=
  lt_size_iff.1 (of_decide_eq_true h)

theorem exists_dataType {n : DataTypeId} (h : s.has (.dataType n)) :
    ∃ d, s.dataType? n = some d :=
  lt_size_iff.1 (of_decide_eq_true h)

theorem mem_dataTypeIds {n : DataTypeId} : n ∈ s.dataTypeIds ↔ ∃ d, s.dataType? n = some d := by
  obtain ⟨i⟩ := n
  simp [dataTypeIds, dataType?, lt_size_iff]

theorem mem_classIds {c : ClassId} : c ∈ s.classIds ↔ ∃ d, s.class? c = some d := by
  obtain ⟨i⟩ := c
  simp [classIds, class?, lt_size_iff]

theorem mem_fieldIds {f : FieldId} : f ∈ s.fieldIds ↔ ∃ d, s.field? f = some d := by
  obtain ⟨i⟩ := f
  simp [fieldIds, field?, lt_size_iff]

theorem fieldIds_nodup (s : Schema) : s.fieldIds.Nodup :=
  List.Nodup.map (fun _ _ h => congrArg FieldId.index h) List.nodup_range

theorem mem_typedefIds {t : TypedefId} : t ∈ s.typedefIds ↔ ∃ d, s.typedef? t = some d := by
  obtain ⟨i⟩ := t
  simp [typedefIds, typedef?, lt_size_iff]

namespace Closed

/-! What stands in a declaration that is there is there too. -/

theorem of_class (h : s.Closed) {c : ClassId} {d : ClassDecl} (hd : s.class? c = some d) {n : Node}
    (hn : n ∈ d.handles) : s.has n := by
  refine h n ?_
  simp only [handles, List.mem_append, List.mem_flatMap]
  exact .inl (.inl (.inl (.inl ⟨d, Array.mem_toList_iff.2 (Array.mem_of_getElem? hd), hn⟩)))

theorem of_field (h : s.Closed) {f : FieldId} {d : FieldDecl} (hd : s.field? f = some d) {n : Node}
    (hn : n ∈ d.handles) : s.has n := by
  refine h n ?_
  simp only [handles, List.mem_append, List.mem_flatMap]
  exact .inl (.inl (.inl (.inr ⟨d, Array.mem_toList_iff.2 (Array.mem_of_getElem? hd), hn⟩)))

theorem of_typedef (h : s.Closed) {t : TypedefId} {d : TypedefDecl} (hd : s.typedef? t = some d)
    {n : Node} (hn : n ∈ d.handles) : s.has n := by
  refine h n ?_
  simp only [handles, List.mem_append, List.mem_flatMap]
  exact .inl (.inl (.inr ⟨d, Array.mem_toList_iff.2 (Array.mem_of_getElem? hd), hn⟩))

theorem of_enum (h : s.Closed) {e : EnumId} {d : EnumDecl} (hd : s.enum? e = some d) {n : Node}
    (hn : n ∈ d.handles) : s.has n := by
  refine h n ?_
  simp only [handles, List.mem_append, List.mem_flatMap]
  exact .inl (.inr ⟨d, Array.mem_toList_iff.2 (Array.mem_of_getElem? hd), hn⟩)

theorem of_dataType (h : s.Closed) {id : DataTypeId} {d : DataType}
    (hd : s.dataType? id = some d) {n : Node} (hn : n ∈ d.handles) : s.has n := by
  refine h n ?_
  simp only [handles, List.mem_append, List.mem_flatMap]
  exact .inr ⟨d, Array.mem_toList_iff.2 (Array.mem_of_getElem? hd), hn⟩

theorem class_package (h : s.Closed) {c : ClassId} {d : ClassDecl} (hd : s.class? c = some d)
    {p : PackageId} (hp : d.package = some p) : ∃ pd, s.package? p = some pd :=
  exists_package (h.of_class hd (by simp [ClassDecl.handles, hp]))

theorem class_parent (h : s.Closed) {c parent : ClassId} {d : ClassDecl}
    (hd : s.class? c = some d) (hp : d.parent = some parent) : ∃ pd, s.class? parent = some pd :=
  exists_class (h.of_class hd (by simp [ClassDecl.handles, hp]))

theorem field_owner (h : s.Closed) {f : FieldId} {d : FieldDecl} (hd : s.field? f = some d) :
    ∃ c, s.class? d.owner = some c :=
  exists_class (h.of_field hd (by simp [FieldDecl.handles]))

theorem field_dataType (h : s.Closed) {f : FieldId} {d : FieldDecl} (hd : s.field? f = some d) :
    ∃ n, s.dataType? d.dataType = some n :=
  exists_dataType (h.of_field hd (by simp [FieldDecl.handles]))

theorem typedef_dataType (h : s.Closed) {t : TypedefId} {d : TypedefDecl}
    (hd : s.typedef? t = some d) : ∃ n, s.dataType? d.dataType = some n :=
  exists_dataType (h.of_typedef hd (by simp [TypedefDecl.handles]))

theorem typedef_package (h : s.Closed) {t : TypedefId} {d : TypedefDecl}
    (hd : s.typedef? t = some d) {p : PackageId} (hp : d.package = some p) :
    ∃ pd, s.package? p = some pd :=
  exists_package (h.of_typedef hd (by simp [TypedefDecl.handles, hp]))

theorem alias_typedef (h : s.Closed) {id : DataTypeId} {d : DataType}
    (hd : s.dataType? id = some d) {t : TypedefId} (ht : d.form = .alias t) :
    ∃ td, s.typedef? t = some td :=
  exists_typedef (h.of_dataType hd (by simp [DataType.handles, TypeForm.handles, ht]))

theorem elementary_enum (h : s.Closed) {id : DataTypeId} {d : DataType}
    (hd : s.dataType? id = some d) {e : Elementary} (he : d.form = .elementary e) {n : EnumId}
    (hn : e.enumeration = some n) : ∃ ed, s.enum? n = some ed :=
  exists_enum (h.of_dataType hd (by simp [DataType.handles, TypeForm.handles, he, hn]))

theorem dataType_owner (h : s.Closed) {id : DataTypeId} {d : DataType}
    (hd : s.dataType? id = some d) : s.has d.owner.node :=
  h.of_dataType hd List.mem_cons_self

/-! ## Qualified names -/

theorem qualify {package : Option PackageId}
    (h : ∀ p, package = some p → ∃ pd, s.package? p = some pd) (name : String) :
    ∃ text, s.qualify package name = some text := by
  cases package with
  | none => exact ⟨name, rfl⟩
  | some p =>
    obtain ⟨pd, hpd⟩ := h p rfl
    exact ⟨_, by simp [Schema.qualify, hpd]; rfl⟩

theorem className (h : s.Closed) {c : ClassId} {d : ClassDecl} (hd : s.class? c = some d) :
    ∃ text, s.className c = some text := by
  obtain ⟨text, htext⟩ := qualify (fun _ => h.class_package hd) d.name
  exact ⟨text, by simp [Schema.className, hd, htext]⟩

theorem typedefName (h : s.Closed) {t : TypedefId} {d : TypedefDecl}
    (hd : s.typedef? t = some d) : ∃ text, s.typedefName t = some text := by
  obtain ⟨text, htext⟩ := qualify (fun _ => h.typedef_package hd) d.name
  exact ⟨text, by simp [Schema.typedefName, hd, htext]⟩

end Closed

/-! ## The end of the construction -/

/-- A draft without a typedef defined twice is finished into its own tables, if each typedef has
its data type. -/
theorem finish_eq_ok_iff {d : Draft} : d.finish = .ok s ↔
    d.redefined = none ∧ d.typedefs = s.typedefs.map Draft.unfinished ∧
    s = { names := d.names, packages := d.packages, classes := d.classes, fields := d.fields,
          typedefs := s.typedefs, enums := d.enums, dataTypes := d.dataTypes } := by
  obtain ⟨names, packages, classes, fields, typedefs, enums, dataTypes⟩ := s
  have htypedefs : d.typedefs.toList.mapM Draft.finishTypedef = .ok typedefs.toList ↔
      d.typedefs = typedefs.map Draft.unfinished := by
    rw [Draft.mapM_finishTypedef_eq_ok_iff, ← Array.toList_map, Array.toList_inj]
  rw [← htypedefs]
  unfold Draft.finish
  cases d.redefined with
  | some name => simp
  | none =>
    cases d.typedefs.toList.mapM Draft.finishTypedef with
    | error e => simp [bind, Except.bind]
    | ok ts =>
      simp only [bind, Except.bind, pure, Except.pure, Except.ok.injEq, Schema.mk.injEq,
        true_and, ← Array.toList_inj]
      grind

/-! ## Classes and their fields -/

theorem listed_of_finish {d : Draft} (hd : d.Linked) (h : d.finish = .ok s) :
    FieldsListed s.classes s.fields := by
  rw [(finish_eq_ok_iff.1 h).2.2]
  exact hd.listed

namespace WellFormed

theorem fieldsListed (h : s.WellFormed) : FieldsListed s.classes s.fields := by
  obtain ⟨calls, d, hcalls, hfinish⟩ := h.drafted
  exact listed_of_finish (Draft.linked_of_replay hcalls) hfinish

theorem mem_fields_iff (h : s.WellFormed) {c : ClassId} {d : ClassDecl}
    (hd : s.class? c = some d) {f : FieldId} :
    f ∈ d.fields ↔ ∃ fd, s.field? f = some fd ∧ fd.owner = c :=
  h.fieldsListed.mem_iff hd

theorem fields_nodup (h : s.WellFormed) {c : ClassId} {d : ClassDecl}
    (hd : s.class? c = some d) : d.fields.toList.Nodup :=
  h.fieldsListed.nodup hd

end WellFormed

/-! ## A schema with a circle of typedefs -/

/-- In package `p` the typedefs `A` and `B` stand for each other and `D` for an integer; class
`C` has a field of type `A` and one of type `D`. -/
def sampleCalls : List Draft.Call :=
  [.addPackage "p", .addTypedef (some ⟨0⟩) "A", .addTypedef (some ⟨0⟩) "B",
   .addTypedef (some ⟨0⟩) "D", .define ⟨0⟩ (.alias ⟨1⟩), .define ⟨1⟩ (.alias ⟨0⟩),
   .define ⟨2⟩ (.elementary { name := "int" }), .addClass (some ⟨0⟩) "C",
   .addField ⟨0⟩ "x" (.alias ⟨0⟩), .addField ⟨0⟩ "y" (.alias ⟨2⟩)]

def sample : Schema where
  names := ["p", "A", "B", "D", "C", "x", "y"].foldl NameTable.insert .empty
  packages := #[{ name := "p" }]
  classes := #[{ name := "C", package := some ⟨0⟩, fields := #[⟨0⟩, ⟨1⟩] }]
  fields := #[{ name := "x", owner := ⟨0⟩, dataType := ⟨3⟩ },
    { name := "y", owner := ⟨0⟩, dataType := ⟨4⟩ }]
  typedefs := #[{ name := "A", package := some ⟨0⟩, dataType := ⟨0⟩ },
    { name := "B", package := some ⟨0⟩, dataType := ⟨1⟩ },
    { name := "D", package := some ⟨0⟩, dataType := ⟨2⟩ }]
  enums := #[]
  dataTypes := #[{ form := .alias ⟨1⟩, owner := .typedef ⟨0⟩ },
    { form := .alias ⟨0⟩, owner := .typedef ⟨1⟩ },
    { form := .elementary { name := "int" }, owner := .typedef ⟨2⟩ },
    { form := .alias ⟨0⟩, owner := .field ⟨0⟩ }, { form := .alias ⟨2⟩, owner := .field ⟨1⟩ }]

theorem sample_wellFormed : sample.WellFormed where
  drafted := ⟨sampleCalls, _, rfl, rfl⟩
  closed := by decide

end Schema

end SchemaTypes
