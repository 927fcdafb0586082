/-
The names by which the declarations of a loaded schema are found.

The first pass writes the headings of a document into the draft, that is the
names of its packages and the packages and names of its typedefs and classes,
and no step of the second pass changes them (`headings_of_load`), whoever gets
which body. No heading comes twice, so a look-up finds a declaration exactly if
it is the one that has the name (`namesIdentify_of_load`).

A qualified name is put together with a dot and read as a reference by cutting
it at the last dot. If the names of typedefs and classes have none, this leads
back to where the name came from (`Knows.leadsBack`).
-/
import SchemaTypes.Proofs.Acceptance

namespace SchemaTypes

/-! ## Headings -/

/-- What the declarations of a schema are found by: the names of packages, and for classes and
typedefs their packages and names. -/
structure Headings where
  packages : List String
  classes : List (Option PackageId × String)
  typedefs : List (Option PackageId × String)

def ClassDecl.heading (c : ClassDecl) : Option PackageId × String :=
  (c.package, c.name)

def TypedefDecl.heading (t : TypedefDecl) : Option PackageId × String :=
  (t.package, t.name)

def DraftTypedef.heading (t : DraftTypedef) : Option PackageId × String :=
  (t.package, t.name)

def Document.Placed.heading {α : Type} (name : α → String) (x : Document.Placed α) :
    Option PackageId × String :=
  (some x.package, name x.part)

def Schema.headings (s : Schema) : Headings where
  packages := s.packages.toList.map (·.name)
  classes := s.classes.toList.map (·.heading)
  typedefs := s.typedefs.toList.map (·.heading)

def Draft.headings (d : Draft) : Headings where
  packages := d.packages.toList.map (·.name)
  classes := d.classes.toList.map (·.heading)
  typedefs := d.typedefs.toList.map (·.heading)

def Document.headings (d : Document) : Headings where
  packages := d.packages.map (·.name)
  classes := d.classes.map (·.heading ClassPart.name)
  typedefs := d.typedefs.map (·.heading TypedefPart.name)

namespace Draft

/-- A call that declares no package, class or typedef. -/
def Call.KeepsHeadings : Call → Prop
  | .addPackage _ | .addClass _ _ | .addTypedef _ _ => False
  | _ => True

theorem headings_perform {c : Call} (hc : c.KeepsHeadings) (d : Draft) :
    (d.perform c).headings = d.headings := by
  have hclasses {g : ClassDecl → ClassDecl} (hg : ∀ x, (g x).heading = x.heading) (i : Nat) :
      (d.classes.modify i g).toList.map (·.heading) = d.classes.toList.map (·.heading) :=
    map_toList_modify hg _ i
  have htypedefs {g : DraftTypedef → DraftTypedef} (hg : ∀ x, (g x).heading = x.heading)
      (i : Nat) : (d.typedefs.modify i g).toList.map (·.heading) =
        d.typedefs.toList.map (·.heading) :=
    map_toList_modify hg _ i
  have hpackages {g : PackageDecl → PackageDecl} (hg : ∀ x, (g x).name = x.name) (i : Nat) :
      (d.packages.modify i g).toList.map (·.name) = d.packages.toList.map (·.name) :=
    map_toList_modify hg _ i
  cases c with
  | addPackage | addClass | addTypedef => cases hc
  | addName | setRequired => rfl
  | addEnum => simp [perform, addEnum, foldl_addName, addName, headings]
  | addField | setParent | setFinal | setClassDefaults =>
    refine congrArg (Headings.mk _ · _) (hclasses (fun _ => ?_) _)
    rfl
  | setPackageDefaults =>
    refine congrArg (Headings.mk · _ _) (hpackages (fun _ => ?_) _)
    rfl
  | define t form =>
    simp only [perform, define, addDataType]
    split
    · rfl
    · split
      · rfl
      · refine congrArg (Headings.mk _ _) (htypedefs (fun _ => ?_) _)
        rfl
  | setSpan node =>
    cases node with
    | package =>
      refine congrArg (Headings.mk · _ _) (hpackages (fun _ => ?_) _)
      rfl
    | classDecl =>
      refine congrArg (Headings.mk _ · _) (hclasses (fun _ => ?_) _)
      rfl
    | typedef =>
      refine congrArg (Headings.mk _ _) (htypedefs (fun _ => ?_) _)
      rfl
    | field | enumDecl | dataType => rfl

theorem headings_finish {d : Draft} {s : Schema} (h : d.finish = .ok s) :
    s.headings = d.headings := by
  obtain ⟨-, htypedefs, heq⟩ := Schema.finish_eq_ok_iff.1 h
  have hsame : (·.heading) ∘ unfinished = TypedefDecl.heading := rfl
  rw [headings, htypedefs, heq, Schema.headings, Array.toList_map, List.map_map, hsame]

end Draft

namespace Document

variable {d : Document} {s : Schema}

/-! ## The second pass keeps what the first one declared -/

namespace Loader

/-- Headings and directories are the same. -/
structure Keeps (l l' : Loader) : Prop where
  headings : l'.draft.headings = l.draft.headings
  typedefs : l'.typedefs = l.typedefs
  classes : l'.classes = l.classes

namespace Keeps

variable {l₀ l l' : Loader} {current : String} {c : ClassId}

theorem refl (l : Loader) : l.Keeps l :=
  ⟨rfl, rfl, rfl⟩

theorem perform (h : l₀.Keeps l) (call : Draft.Call) (hcall : call.KeepsHeadings) :
    l₀.Keeps { l with draft := l.draft.perform call } :=
  { h with headings := (Draft.headings_perform hcall l.draft).trans h.headings }

theorem place (h : l₀.Keeps l) (node : Node) (span : Option Span) :
    l₀.Keeps { l with draft := Document.place l.draft node span } := by
  cases span with
  | none => exact h
  | some span => exact h.perform (.setSpan node span) trivial

theorem formOf {type : TypePart} {form : TypeForm} {span : Option Span} (h : l₀.Keeps l)
    (hl : l.formOf current type = .ok (form, span, l')) : l₀.Keeps l' := by
  cases type with
  | elementary p =>
    simp only [Loader.formOf, bind_eq_ok_iff, pure, Except.pure, Except.ok.injEq,
      Prod.mk.injEq] at hl
    obtain ⟨e, -, -, -, rfl⟩ := hl
    exact h.perform (.addName p.name) trivial
  | object reference | typedef reference =>
    simp only [Loader.formOf, bind_eq_ok_iff, pure, Except.pure, Except.ok.injEq,
      Prod.mk.injEq] at hl
    obtain ⟨id, -, -, -, rfl⟩ := hl
    exact h

theorem defineTypedef {p : TypedefPart} (h : l₀.Keeps l)
    (hl : l.defineTypedef current p = .ok l') : l₀.Keeps l' := by
  simp only [Loader.defineTypedef, bind_eq_ok_iff, pure, Except.pure, Except.ok.injEq] at hl
  obtain ⟨t, -, ⟨form, span, l₁⟩, hform, rfl⟩ := hl
  exact ((h.formOf hform).perform (.define t form) trivial).place _ span

theorem addField {p : FieldPart} (h : l₀.Keeps l) (hl : l.addField current c p = .ok l') :
    l₀.Keeps l' := by
  simp only [Loader.addField, bind_eq_ok_iff] at hl
  obtain ⟨⟨form, span, l₁⟩, hform, hl⟩ := hl
  have hadded := (h.formOf hform).perform (.addField c p.name form) trivial
  have hplaced := (hadded.place (.dataType ⟨l₁.draft.dataTypes.size⟩) span).place
    (.field ⟨l₁.draft.fields.size⟩) p.span
  simp only [markField, bind_eq_ok_iff] at hl
  obtain ⟨marker, -, hl⟩ := hl
  cases marker with
  | none =>
    obtain rfl := Except.ok.inj hl
    exact hplaced
  | some marker =>
    obtain rfl := Except.ok.inj hl
    exact hplaced.perform (.setRequired ⟨l₁.draft.fields.size⟩ marker) trivial

theorem setParent {reference : Option String} (h : l₀.Keeps l)
    (hl : l.setParent current c reference = .ok l') : l₀.Keeps l' := by
  cases reference with
  | none =>
    obtain rfl := Except.ok.inj hl
    exact h
  | some reference =>
    simp only [Loader.setParent, bind_eq_ok_iff, pure, Except.pure, Except.ok.injEq] at hl
    obtain ⟨parent, -, rfl⟩ := hl
    exact h.perform (.setParent c parent) trivial

theorem setDefaults {part : Option DefaultsPart} (h : l₀.Keeps l)
    (hl : l.setDefaults c part = .ok l') : l₀.Keeps l' := by
  cases part with
  | none =>
    obtain rfl := Except.ok.inj hl
    exact h
  | some part =>
    simp only [Loader.setDefaults, bind_eq_ok_iff, pure, Except.pure, Except.ok.injEq] at hl
    obtain ⟨defaults, -, rfl⟩ := hl
    exact h.perform (.setClassDefaults c defaults) trivial

theorem defineClass {p : ClassPart} (h : l₀.Keeps l) (hl : l.defineClass current p = .ok l') :
    l₀.Keeps l' := by
  simp only [Loader.defineClass, bind_eq_ok_iff] at hl
  obtain ⟨c, -, l₁, h₁, l₂, h₂, h₃⟩ := hl
  have hfinal := (h.setParent h₁).perform (.setFinal c p.isFinal) trivial
  exact foldlM_keeps (fun _ _ _ _ ha => ha.addField) (hfinal.setDefaults h₂) h₃

theorem definePackage {p : PackagePart} (h : l₀.Keeps l) (hl : l.definePackage p = .ok l') :
    l₀.Keeps l' := by
  simp only [Loader.definePackage, bind_eq_ok_iff] at hl
  obtain ⟨l₁, h₁, h₂⟩ := hl
  have h₁ : l₀.Keeps l₁ := foldlM_keeps (fun _ _ _ _ ha => ha.defineTypedef) h h₁
  exact foldlM_keeps (fun _ _ _ _ ha => ha.defineClass) h₁ h₂

theorem definePackages {ps : List PackagePart}
    (hl : ps.foldlM Loader.definePackage l₀ = .ok l) : l₀.Keeps l :=
  foldlM_keeps (fun _ _ _ _ ha => ha.definePackage) (.refl l₀) hl

end Keeps

end Loader

theorem Declared.headings {l : Loader}
    (h : Declared d.packages d.enums d.typedefs d.classes l) : l.draft.headings = d.headings := by
  have hpackages : l.draft.packages.toList.map (·.name) = d.packages.map (·.name) :=
    h.packages.map_eq fun _ _ _ hmatch => hmatch.name
  have hclasses : (·.heading) ∘ Placed.bare = (·.heading ClassPart.name) := rfl
  have htypedefs : (·.heading) ∘ Placed.pending = (·.heading TypedefPart.name) := rfl
  simp only [Draft.headings, h.classes, h.typedefs, List.map_map, hpackages, hclasses, htypedefs,
    Document.headings]

/-- A loader in the course of the second pass: everything is declared, and the first packages are
filled. -/
def Underway (d : Document) (l : Loader) : Prop :=
  ∃ l₀ done rest, d.packages = done ++ rest ∧
    d.packages.foldlM Loader.declarePackage {} = .ok l₀ ∧
    done.foldlM Loader.definePackage l₀ = .ok l

/-- The schema has the headings of the document. -/
theorem headings_of_load (h : load d = .ok s) : s.headings = d.headings := by
  obtain ⟨l₀, l, hdeclare, hdefine, hfinish⟩ := load_eq_ok_iff.1 h
  have hdeclared := (declare_outcome d).post_of_ok hdeclare
  have hkeeps := Loader.Keeps.definePackages hdefine
  rw [Draft.headings_finish hfinish, hkeeps.headings, hdeclared.headings]

/-- The names in a document that is loaded are distinct. -/
structure Distinct (d : Document) : Prop where
  packages : (d.packages.map (·.name)).Nodup
  typedefs : d.typedefNames.Nodup
  classes : d.classNames.Nodup

theorem distinct_of_load (h : load d = .ok s) : d.Distinct := by
  obtain ⟨l₀, l, hdeclare, -, -⟩ := load_eq_ok_iff.1 h
  obtain ⟨hnames, hdeclarable⟩ := (declare_outcome d).ok_iff.1 ⟨l₀, hdeclare⟩
  exact ⟨hnames, nodup_qualified hnames fun p hp => (hdeclarable p hp).typedefs,
    nodup_qualified hnames fun p hp => (hdeclarable p hp).classes⟩

theorem nodup_headings {α : Type} {pick : PackagePart → List α} {ps : List PackagePart}
    {name : α → String} (h : ((members pick ps).map (·.qualified name)).Nodup) :
    ((members pick ps).map (·.heading name)).Nodup := by
  refine (List.Nodup.of_map _ h).map_on fun x hx y hy heq => ?_
  obtain ⟨hpackage, hname⟩ := Prod.mk.inj heq
  obtain ⟨p, hp, haround, -⟩ := mem_members.1 hx
  obtain ⟨q, hq, haround', -⟩ := mem_members.1 hy
  obtain rfl : p = q := by
    rw [Option.some.inj hpackage] at hp
    exact Option.some.inj (hp.symm.trans hq)
  refine List.inj_on_of_nodup_map h hx hy ?_
  simp [Placed.qualified, haround, haround', hname]

end Document

/-! ## Look-ups by name -/

/-- A look-up finds what is the only thing with a property, and nothing if nothing has it. -/
structure Finds {ι : Type} (find : Option ι) (P : ι → Prop) : Prop where
  some_iff : ∀ x, find = some x ↔ P x ∧ ∀ y, P y → y = x
  none_iff : find = none ↔ ∀ x, ¬P x

theorem Finds.of_iff {ι : Type} {find : Option ι} {P : ι → Prop}
    (h : ∀ x, find = some x ↔ P x) : Finds find P where
  some_iff x := by
    constructor
    · intro hx
      exact ⟨(h x).1 hx, fun y hy => Option.some.inj (((h y).2 hy).symm.trans hx)⟩
    · rintro ⟨hx, -⟩
      exact (h x).2 hx
  none_iff := by
    rw [Option.eq_none_iff_forall_ne_some]
    exact forall_congr' fun x => not_congr (h x)

namespace Schema

variable {s : Schema}

def PackageNamed (s : Schema) (name : String) (p : PackageId) : Prop :=
  ∃ d, s.package? p = some d ∧ d.name = name

/-- A class stands in a package under a name. -/
def ClassNamed (s : Schema) (p : PackageId) (name : String) (c : ClassId) : Prop :=
  ∃ d, s.class? c = some d ∧ d.package = some p ∧ d.name = name

def TypedefNamed (s : Schema) (p : PackageId) (name : String) (t : TypedefId) : Prop :=
  ∃ d, s.typedef? t = some d ∧ d.package = some p ∧ d.name = name

theorem firstIndex?_eq_some_iff {β κ : Type} [DecidableEq κ] {table : Array β} {view : β → κ}
    (h : (table.toList.map view).Nodup) {test : β → Bool} {key : κ}
    (htest : ∀ x, test x ↔ view x = key) {i : Nat} :
    firstIndex? table test = some i ↔ ∃ x, table[i]? = some x ∧ view x = key := by
  have hkey : test = (· == key) ∘ view := by
    funext x
    rw [Bool.eq_iff_iff, htest, Function.comp_apply, beq_iff_eq]
  have hidx : firstIndex? table test = (table.toList.map view).idxOf? key := by
    rw [firstIndex?, List.idxOf?, List.findIdx?_map, hkey]
  rw [hidx, Document.idxOf?_eq_some_iff h, List.getElem?_map, Option.map_eq_some_iff,
    Array.getElem?_toList]

/-- Names identify the packages of a schema, and in each package the classes and the typedefs. -/
structure NamesIdentify (s : Schema) : Prop where
  packages : ∀ name, Finds (s.findPackage? name) (s.PackageNamed name)
  classes : ∀ p name, Finds (s.findClass? p name) (s.ClassNamed p name)
  typedefs : ∀ p name, Finds (s.findTypedef? p name) (s.TypedefNamed p name)

theorem namesIdentify_of_headings (hpackages : s.headings.packages.Nodup)
    (hclasses : s.headings.classes.Nodup) (htypedefs : s.headings.typedefs.Nodup) :
    s.NamesIdentify where
  packages name := .of_iff fun ⟨i⟩ => by
    have htest (d : PackageDecl) : (d.name == name) ↔ d.name = name := by simp
    have hfind := firstIndex?_eq_some_iff hpackages htest (i := i)
    simpa [findPackage?, PackageNamed, package?] using hfind
  classes p name := .of_iff fun ⟨i⟩ => by
    have htest (d : ClassDecl) : (d.package == some p && d.name == name) ↔
        d.heading = (some p, name) := by simp [ClassDecl.heading]
    have hfind := firstIndex?_eq_some_iff hclasses htest (i := i)
    simpa [findClass?, ClassNamed, class?, ClassDecl.heading] using hfind
  typedefs p name := .of_iff fun ⟨i⟩ => by
    have htest (d : TypedefDecl) : (d.package == some p && d.name == name) ↔
        d.heading = (some p, name) := by simp [TypedefDecl.heading]
    have hfind := firstIndex?_eq_some_iff htypedefs htest (i := i)
    simpa [findTypedef?, TypedefNamed, typedef?, TypedefDecl.heading] using hfind

end Schema

namespace Document

variable {d : Document} {s : Schema} {l : Loader}

theorem namesIdentify_of_load (h : load d = .ok s) : s.NamesIdentify := by
  have hdistinct := distinct_of_load h
  have heq := headings_of_load h
  refine Schema.namesIdentify_of_headings ?_ ?_ ?_
  · rw [heq]
    exact hdistinct.packages
  · rw [heq]
    exact nodup_headings hdistinct.classes
  · rw [heq]
    exact nodup_headings hdistinct.typedefs

/-! ## References -/

/-- A declaration is found by its qualified name from anywhere, and by its simple name from its
own package. -/
structure LeadsBack {ι : Type} (s : Schema) (read : String → String → Except LoadFault ι)
    (qualified : Option String) (heading : Option PackageId × String) (id : ι) : Prop where
  qualified : ∃ n, qualified = some n ∧ ∀ around, read around n = .ok id
  simple : ∃ p decl, heading.1 = some p ∧ s.package? p = some decl ∧
    read decl.name heading.2 = .ok id

theorem exists_of_map_eq {α β κ : Type} {table : Array β} {view : β → κ} {xs : List α}
    {view' : α → κ} (h : table.toList.map view = xs.map view') {i : Nat} {y : β}
    (hy : table[i]? = some y) : ∃ x, xs[i]? = some x ∧ view' x = view y := by
  rw [← Option.map_eq_some_iff, ← List.getElem?_map, ← h, List.getElem?_map,
    Array.getElem?_toList, hy, Option.map_some]

/-- Names without a dot lead back to their declarations, with and without the package. -/
theorem Knows.leadsBack {α β ι : Type} {pick : PackagePart → List α} {name : α → String}
    {dir : Directory ι} {mk : Nat → ι} {kind : DeclKind} {table : Array β}
    {view : β → Option PackageId × String}
    (h : Knows dir mk ((members pick d.packages).map (·.qualified name)))
    (hnames : ((members pick d.packages).map (·.qualified name)).Nodup)
    (hdot : ∀ x ∈ members pick d.packages, '.' ∉ (name x.part).toList)
    (hpackages : s.headings.packages = d.headings.packages)
    (htable : table.toList.map view = (members pick d.packages).map (·.heading name))
    {i : Nat} {y : β} (hy : table[i]? = some y) :
    LeadsBack s (Loader.follow kind dir) (s.qualify (view y).1 (view y).2) (view y) (mk i) := by
  obtain ⟨x, hx, hview⟩ := exists_of_map_eq htable hy
  have hmem := List.mem_of_getElem? hx
  obtain ⟨part, hpart, haround, -⟩ := mem_members.1 hmem
  have hdecl : (s.package? x.package).map (·.name) = some x.around := by
    have hsame := congrArg (·[x.package.index]?) hpackages
    simpa [Schema.headings, Document.headings, Schema.package?, hpart, haround] using hsame
  obtain ⟨decl, hdecl, hname⟩ := Option.map_eq_some_iff.1 hdecl
  have hfound : dir.get? ⟨x.around, name x.part⟩ = some (mk i) := by
    rw [h]
    exact congrArg (Option.map mk) ((idxOf?_qualified_iff hnames).2 ⟨x, hx, rfl⟩)
  rw [← hview]
  refine ⟨⟨decl.name ++ "." ++ name x.part, ?_, fun around => ?_⟩,
    x.package, decl, rfl, hdecl, ?_⟩
  · rw [Placed.heading, Schema.qualify, hdecl, Option.map_some]
  · rw [Loader.follow_eq_ok_iff, ofReference_of_dotted (hdot x hmem), hname, hfound]
  · rw [Loader.follow_eq_ok_iff, Placed.heading, ofReference_of_dotless (hdot x hmem), hname,
      hfound]

/-- What one reference leads back to from two declarations is one declaration. -/
theorem LeadsBack.unique {ι : Type} {read : String → String → Except LoadFault ι}
    {heading heading' : Option PackageId × String} {id id' : ι} {n : String}
    (h : LeadsBack s read (some n) heading id) (h' : LeadsBack s read (some n) heading' id') :
    id = id' := by
  obtain ⟨m, hm, hread⟩ := h.qualified
  obtain ⟨m', hm', hread₂⟩ := h'.qualified
  obtain rfl : m = m' := Option.some.inj (hm.symm.trans hm')
  exact Except.ok.inj ((hread "").symm.trans (hread₂ ""))

/-- Qualified names are those of one class or typedef, and references by qualified and by simple
name lead back to it. -/
structure ReferencesLeadBack (d : Document) (s : Schema) : Prop where
  classNames : ∀ c c' n, s.className c = some n → s.className c' = some n → c = c'
  typedefNames : ∀ t t' n, s.typedefName t = some n → s.typedefName t' = some n → t = t'
  classes : ∀ l, d.Underway l → ∀ c decl, s.class? c = some decl →
    LeadsBack s l.classOf (s.className c) decl.heading c
  typedefs : ∀ l, d.Underway l → ∀ t decl, s.typedef? t = some decl →
    LeadsBack s l.typedefOf (s.typedefName t) decl.heading t

theorem Underway.knows (h : d.Underway l) :
    Knows l.typedefs .mk d.typedefNames ∧ Knows l.classes .mk d.classNames := by
  obtain ⟨l₀, done, rest, -, hdeclare, hdefine⟩ := h
  have hdeclared := (declare_outcome d).post_of_ok hdeclare
  have hkeeps := Loader.Keeps.definePackages hdefine
  rw [hkeeps.typedefs, hkeeps.classes]
  exact ⟨hdeclared.typedefNames, hdeclared.classNames⟩

theorem Dotless.mem_typedefs (hdot : d.Dotless) :
    ∀ x ∈ d.typedefs, '.' ∉ x.part.name.toList := by
  intro x hx
  obtain ⟨p, hp, -, hpart⟩ := mem_members.1 hx
  exact (hdot p (List.mem_of_getElem? hp)).typedefs _ hpart

theorem Dotless.mem_classes (hdot : d.Dotless) : ∀ x ∈ d.classes, '.' ∉ x.part.name.toList := by
  intro x hx
  obtain ⟨p, hp, -, hpart⟩ := mem_members.1 hx
  exact (hdot p (List.mem_of_getElem? hp)).classes _ hpart

theorem class_leadsBack (h : load d = .ok s) (hdot : d.Dotless) (hl : d.Underway l)
    {c : ClassId} {decl : ClassDecl} (hc : s.class? c = some decl) :
    LeadsBack s l.classOf (s.className c) decl.heading c := by
  have heq := headings_of_load h
  have hname : s.className c = s.qualify decl.heading.1 decl.heading.2 := by
    simp [Schema.className, hc, ClassDecl.heading]
  rw [hname]
  exact hl.knows.2.leadsBack (distinct_of_load h).classes hdot.mem_classes
    (congrArg Headings.packages heq) (congrArg Headings.classes heq) hc

theorem typedef_leadsBack (h : load d = .ok s) (hdot : d.Dotless) (hl : d.Underway l)
    {t : TypedefId} {decl : TypedefDecl} (ht : s.typedef? t = some decl) :
    LeadsBack s l.typedefOf (s.typedefName t) decl.heading t := by
  have heq := headings_of_load h
  have hname : s.typedefName t = s.qualify decl.heading.1 decl.heading.2 := by
    simp [Schema.typedefName, ht, TypedefDecl.heading]
  rw [hname]
  exact hl.knows.1.leadsBack (distinct_of_load h).typedefs hdot.mem_typedefs
    (congrArg Headings.packages heq) (congrArg Headings.typedefs heq) ht

theorem exists_underway (h : load d = .ok s) : ∃ l, d.Underway l := by
  obtain ⟨l₀, -, hdeclare, -, -⟩ := load_eq_ok_iff.1 h
  exact ⟨l₀, l₀, [], d.packages, rfl, hdeclare, rfl⟩

theorem referencesLeadBack_of_load (h : load d = .ok s) (hdot : d.Dotless) :
    d.ReferencesLeadBack s where
  classes l hl c decl hc := class_leadsBack h hdot hl hc
  typedefs l hl t decl ht := typedef_leadsBack h hdot hl ht
  classNames c c' n hn hn' := by
    obtain ⟨l, hl⟩ := exists_underway h
    obtain ⟨decl, hc, -⟩ := Option.bind_eq_some_iff.1 hn
    obtain ⟨decl', hc', -⟩ := Option.bind_eq_some_iff.1 hn'
    exact LeadsBack.unique (hn ▸ class_leadsBack h hdot hl hc) (hn' ▸ class_leadsBack h hdot hl hc')
  typedefNames t t' n hn hn' := by
    obtain ⟨l, hl⟩ := exists_underway h
    obtain ⟨decl, ht, -⟩ := Option.bind_eq_some_iff.1 hn
    obtain ⟨decl', ht', -⟩ := Option.bind_eq_some_iff.1 hn'
    exact LeadsBack.unique (hn ▸ typedef_leadsBack h hdot hl ht)
      (hn' ▸ typedef_leadsBack h hdot hl ht')

/-- **Names identify declarations.** In the schema of a document a look-up by name finds a
package, a class or a typedef exactly if it is the only one with that name, and nothing by any
other text. If no typedef and no class has a dot in its name, their qualified names differ, and a
reference by the qualified name, or by the simple one from the own package, leads back to the
declaration. -/
theorem names_identify_of_load (h : load d = .ok s) :
    s.NamesIdentify ∧ (d.Dotless → d.ReferencesLeadBack s) :=
  ⟨namesIdentify_of_load h, referencesLeadBack_of_load h⟩

/-- The two typedefs `Money` of `shop` have different qualified names. -/
theorem names_identify_of_load_shop : ∃ s, load shop = .ok s ∧ s.NamesIdentify ∧
    shop.Dotless ∧ shop.ReferencesLeadBack s := by
  have hload : ∃ s, load shop = .ok s := ⟨_, rfl⟩
  obtain ⟨s, hs⟩ := hload
  obtain ⟨hnames, hreferences⟩ := names_identify_of_load hs
  exact ⟨s, hs, hnames, shop_dotless, hreferences shop_dotless⟩

end Document

end SchemaTypes
