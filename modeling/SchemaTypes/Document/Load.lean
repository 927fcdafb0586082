/-
The schema of a document. A first pass declares every package, enumeration,
typedef and class, so that references may point forward; a second pass defines
the typedefs and fills the classes. The first thing wrong ends the loading.

The second pass finds each typedef and class again by its declared name, read
as a reference in its package.
-/
import SchemaTypes.Document.Basic
import SchemaTypes.Document.Directory
import SchemaTypes.Schema.Draft

namespace SchemaTypes.Document

/-- The kinds of declarations that have names of their own. -/
inductive DeclKind where
  | package
  | enumeration
  | typedef
  | classDecl
deriving DecidableEq, Repr

def DeclKind.word : DeclKind → String
  | .package => "package"
  | .enumeration => "enum"
  | .typedef => "typedef"
  | .classDecl => "class"

/-- Why a document has no schema. -/
inductive LoadFault where
  | unreadable (f : ReadFault)
  /-- A reference that leads to no declaration of the kind, and the package where it stands. -/
  | unknown (kind : DeclKind) (reference package : String)
  | duplicate (kind : DeclKind) (name : String)
  /-- A word that is no keyword of its setting. -/
  | invalidSetting (key value : String)
  | draft (f : DraftFault)
deriving DecidableEq, Repr

def LoadFault.message : LoadFault → String
  | .unreadable f => "invalid model document: " ++ f.message
  | .unknown kind reference package =>
    "unknown " ++ kind.word ++ " `" ++ reference ++ "` referenced from package `" ++ package ++ "`"
  | .duplicate kind name => kind.word ++ " `" ++ name ++ "` is declared more than once"
  | .invalidSetting key value => "invalid value `" ++ value ++ "` for setting `" ++ key ++ "`"
  | .draft f => f.message

/-! ## Settings -/

/-- The value that a setting's word stands for, if it is given. -/
def settingOf {α : Type} [Setting α] (key : String) :
    Option String → Except LoadFault (Option α)
  | none => .ok none
  | some word =>
    match Setting.parse? word with
    | some v => .ok (some v)
    | none => .error (.invalidSetting key word)

def defaultsOf (p : DefaultsPart) : Except LoadFault Defaults := do
  let visibility ← settingOf "visibility" p.visibility
  let primitiveUse ← settingOf "use_primitives" p.primitiveUse
  let signedness ← settingOf "signed" p.signedness
  let trimming ← settingOf "trimming" p.trimming
  let controlChars ← settingOf "allow_ctrls" p.controlChars
  let required ← settingOf "required" p.required
  pure { visibility, primitiveUse, signedness, trimming, controlChars, required }

/-! ## The first pass -/

/-- A draft with the names and handles of what has been declared in it. -/
structure Loader where
  draft : Draft := .empty
  /-- The names of the packages declared. -/
  packages : List String := []
  classes : Directory ClassId := .empty
  typedefs : Directory TypedefId := .empty
  enums : Directory EnumId := .empty

/-- A directory with one more entry, unless its name is taken. -/
def enter {α : Type} (kind : DeclKind) (d : Directory α) (key : QualifiedName) (value : α) :
    Except LoadFault (Directory α) :=
  if (d.get? key).isSome then .error (.duplicate kind key.name) else .ok (d.insert key value)

/-- The draft with a node's span, if one is given. -/
def place (d : Draft) (node : Node) : Option Span → Draft
  | none => d
  | some span => d.setSpan node span

namespace Loader

def declareEnum (package : String) (id : PackageId) (l : Loader) (p : EnumPart) :
    Except LoadFault Loader := do
  let (e, draft) := l.draft.addEnum id p.name p.values
  let enums ← enter .enumeration l.enums ⟨package, p.name⟩ e
  pure { l with draft := place draft (.enumDecl e) p.span, enums }

def declareTypedef (package : String) (id : PackageId) (l : Loader) (p : TypedefPart) :
    Except LoadFault Loader := do
  let (t, draft) := l.draft.addTypedef (some id) p.name
  let typedefs ← enter .typedef l.typedefs ⟨package, p.name⟩ t
  pure { l with draft := place draft (.typedef t) p.span, typedefs }

def declareClass (package : String) (id : PackageId) (l : Loader) (p : ClassPart) :
    Except LoadFault Loader := do
  let (c, draft) := l.draft.addClass (some id) p.name
  let classes ← enter .classDecl l.classes ⟨package, p.name⟩ c
  pure { l with draft := place draft (.classDecl c) p.span, classes }

/-- The package itself, before what stands in it. -/
def declareHead (l : Loader) (p : PackagePart) : Except LoadFault (PackageId × Loader) := do
  if l.packages.contains p.name then throw (.duplicate .package p.name)
  let (id, draft) := l.draft.addPackage p.name
  let l := { l with draft := place draft (.package id) p.span, packages := p.name :: l.packages }
  match p.defaults with
  | none => pure (id, l)
  | some part =>
    let defaults ← defaultsOf part
    pure (id, { l with draft := l.draft.setPackageDefaults id defaults })

def declarePackage (l : Loader) (p : PackagePart) : Except LoadFault Loader := do
  let (id, l) ← l.declareHead p
  let l ← p.enums.foldlM (declareEnum p.name id) l
  let l ← p.typedefs.foldlM (declareTypedef p.name id) l
  p.classes.foldlM (declareClass p.name id) l

/-! ## References -/

/-- The handle to which a reference leads from a package. -/
def follow {α : Type} (kind : DeclKind) (d : Directory α) (current reference : String) :
    Except LoadFault α :=
  match d.get? (.ofReference current reference) with
  | some id => .ok id
  | none => .error (.unknown kind reference current)

def classOf (l : Loader) (current reference : String) : Except LoadFault ClassId :=
  follow .classDecl l.classes current reference

def typedefOf (l : Loader) (current reference : String) : Except LoadFault TypedefId :=
  follow .typedef l.typedefs current reference

def enumOf (l : Loader) (current reference : String) : Except LoadFault EnumId :=
  follow .enumeration l.enums current reference

/-! ## The second pass -/

def elementaryOf (l : Loader) (current : String) (p : ElementaryPart) :
    Except LoadFault Elementary := do
  let signedness ← settingOf "signed" p.signedness
  let trimming ← settingOf "trimming" p.trimming
  let controlChars ← settingOf "allow_ctrls" p.controlChars
  let enumeration ← p.enumeration.mapM (l.enumOf current)
  pure {
    name := p.name
    length := p.length
    decimals := p.decimals
    signedness
    trimming
    controlChars
    enumeration }

/-- The form of a type, with its span. The name of a scalar enters the name table. -/
def formOf (l : Loader) (current : String) :
    TypePart → Except LoadFault (TypeForm × Option Span × Loader)
  | .elementary p => do
    let e ← l.elementaryOf current p
    pure (.elementary e, p.span, { l with draft := l.draft.addName p.name })
  | .object reference => do
    let c ← l.classOf current reference
    pure (.object c, none, l)
  | .typedef reference => do
    let t ← l.typedefOf current reference
    pure (.alias t, none, l)

def defineTypedef (current : String) (l : Loader) (p : TypedefPart) :
    Except LoadFault Loader := do
  let t ← l.typedefOf current p.name
  let (form, span, l) ← l.formOf current p.type
  let (dataType, draft) := l.draft.define t form
  pure { l with draft := place draft (.dataType dataType) span }

/-- Marks a field, if a marker is given. -/
def markField (l : Loader) (f : FieldId) (word : Option String) : Except LoadFault Loader := do
  match ← settingOf "required" word with
  | none => pure l
  | some marker => pure { l with draft := l.draft.setRequired f marker }

def addField (current : String) (owner : ClassId) (l : Loader) (p : FieldPart) :
    Except LoadFault Loader := do
  let (form, span, l) ← l.formOf current p.type
  let dataType : DataTypeId := ⟨l.draft.dataTypes.size⟩
  let (f, draft) := l.draft.addField owner p.name form
  let draft := place (place draft (.dataType dataType) span) (.field f) p.span
  { l with draft }.markField f p.required

/-- The class's parent, if one is given. -/
def setParent (current : String) (l : Loader) (c : ClassId) (reference : Option String) :
    Except LoadFault Loader :=
  match reference with
  | none => .ok l
  | some reference => do
    let parent ← l.classOf current reference
    pure { l with draft := l.draft.setParent c parent }

/-- The class's defaults block, if one is given. -/
def setDefaults (l : Loader) (c : ClassId) (part : Option DefaultsPart) :
    Except LoadFault Loader :=
  match part with
  | none => .ok l
  | some part => do
    let defaults ← defaultsOf part
    pure { l with draft := l.draft.setClassDefaults c defaults }

def defineClass (current : String) (l : Loader) (p : ClassPart) : Except LoadFault Loader := do
  let c ← l.classOf current p.name
  let l ← setParent current l c p.parent
  let l := { l with draft := l.draft.setFinal c p.isFinal }
  let l ← l.setDefaults c p.defaults
  p.fields.foldlM (addField current c) l

def definePackage (l : Loader) (p : PackagePart) : Except LoadFault Loader := do
  let l ← p.typedefs.foldlM (defineTypedef p.name) l
  p.classes.foldlM (defineClass p.name) l

end Loader

/-! ## Both passes -/

/-- The schema of a document. -/
def load (d : Document) : Except LoadFault Schema := do
  let declared ← d.packages.foldlM Loader.declarePackage {}
  let defined ← d.packages.foldlM Loader.definePackage declared
  defined.draft.finish.mapError .draft

/-- The schema of the document that a text holds. -/
def loadText (text : String) : Except LoadFault Schema := do
  let d ← (read? text).mapError .unreadable
  load d

end SchemaTypes.Document
