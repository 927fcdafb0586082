/-
What one argument more changes in the options of a command.

Arguments are taken in one after the other, so two lists that differ in one
argument are compared from there on: as long as the options so far are related
in a way that no later option undoes, the rest is taken in alike
(`takeArguments_related`). An option about the output then changes neither the
path nor which rules are asked nor whether the arguments are accepted
(`parseOptions_insert_output`), and the one that switches the lengths off
changes nothing but that (`parseOptions_insert_noLengthChecks`).
-/
import SchemaTypes.CommandLine.Options

namespace SchemaTypes.CommandLine

/-! ## Single arguments -/

/-- Whether an argument is a valid option about the output. -/
def isOutputOption (a : String) : Bool :=
  match Argument.ofText a with
  | .format word => (OutputFormat.parse? word).isSome
  | .color word => (ColorMode.parse? word).isSome
  | _ => false

example : ["--format=terminal", "--format=json", "--color=auto", "--color=always",
    "--color=never"].all isOutputOption ∧ ¬isOutputOption "--color=Always" := by decide

/-- The argument that switches the rules on lengths off. -/
def noLengthChecks : String :=
  "--no-length-checks"

/-- An option about the output is accepted wherever it stands, and leaves the path and the
lengths as they are. -/
theorem takeArgument_output {a : String} (ha : isOutputOption a) (o : Options)
    (path : Option String) : ∃ o', takeArgument o path (.ofText a) = .ok (o', path) ∧
      o'.checkLengths = o.checkLengths := by
  unfold isOutputOption at ha
  split at ha
  · next word hword =>
    obtain ⟨f, hf⟩ := Option.isSome_iff_exists.1 ha
    exact ⟨{ o with format := f }, by rw [hword, takeArgument, hf], rfl⟩
  · next word hword =>
    obtain ⟨m, hm⟩ := Option.isSome_iff_exists.1 ha
    exact ⟨{ o with color := m }, by rw [hword, takeArgument, hm], rfl⟩
  · cases ha

theorem takeArgument_noLengthChecks (o : Options) (path : Option String) :
    takeArgument o path (.ofText noLengthChecks) = .ok ({ o with checkLengths := false }, path) := by
  have hargument : Argument.ofText noLengthChecks = .noLengthChecks := by decide
  rw [hargument, takeArgument]

/-! ## Related results -/

/-- Two results are the same fault, or related options and the same path. -/
inductive Related {α : Type} (R : Options → Options → Prop) :
    Except OptionFault (Options × α) → Except OptionFault (Options × α) → Prop
  | error (fault : OptionFault) : Related R (.error fault) (.error fault)
  | ok {o o' : Options} (path : α) (h : R o o') : Related R (.ok (o, path)) (.ok (o', path))

/-- A relation that stays when both options are changed in the same way. -/
structure Stays (R : Options → Options → Prop) : Prop where
  format : ∀ {o o'} f, R o o' → R { o with format := f } { o' with format := f }
  color : ∀ {o o'} m, R o o' → R { o with color := m } { o' with color := m }
  noLengths : ∀ {o o'}, R o o' →
    R { o with checkLengths := false } { o' with checkLengths := false }

section Related

variable {R : Options → Options → Prop} {o o' : Options}

theorem Related.of_error {α : Type} {x y : Except OptionFault (Options × α)} {fault : OptionFault}
    (h : Related R x y) (hx : x = .error fault) : y = .error fault := by
  cases h with
  | error fault => exact hx
  | ok path h => cases hx

theorem Related.of_ok {α : Type} {x y : Except OptionFault (Options × α)} {path : α}
    (h : Related R x y) (hx : x = .ok (o, path)) : ∃ o', y = .ok (o', path) ∧ R o o' := by
  cases h with
  | error fault => cases hx
  | ok path h =>
    cases hx
    exact ⟨_, rfl, h⟩

theorem Related.symm {α : Type} {x y : Except OptionFault (Options × α)} (h : Related R x y) :
    Related (fun o o' => R o' o) y x := by
  cases h with
  | error fault => exact .error fault
  | ok path h => exact .ok path h

theorem Related.bind {α β : Type} {x y : Except OptionFault (Options × α)}
    {f g : Options × α → Except OptionFault (Options × β)} (h : Related R x y)
    (hnext : ∀ o o' path, R o o' → Related R (f (o, path)) (g (o', path))) :
    Related R (x >>= f) (y >>= g) := by
  cases h with
  | error fault => exact .error fault
  | ok path h => exact hnext _ _ path h

theorem Stays.takeArgument (hR : Stays R) (h : R o o') (path : Option String) (a : Argument) :
    Related R (takeArgument o path a) (takeArgument o' path a) := by
  cases a with
  | format word =>
    simp only [CommandLine.takeArgument]
    cases OutputFormat.parse? word with
    | some f => exact .ok path (hR.format f h)
    | none => exact .error _
  | color word =>
    simp only [CommandLine.takeArgument]
    cases ColorMode.parse? word with
    | some m => exact .ok path (hR.color m h)
    | none => exact .error _
  | noLengthChecks => exact .ok path (hR.noLengths h)
  | otherOption a => exact .error _
  | path a =>
    cases path with
    | none => exact .ok (some a) h
    | some path => exact .error _

theorem takeArguments_cons (o : Options) (path : Option String) (a : String) (args : List String) :
    takeArguments o path (a :: args) =
      takeArgument o path (.ofText a) >>= fun (o, path) => takeArguments o path args := rfl

theorem takeArguments_related (hR : Stays R) (args : List String) : ∀ {o o' : Options}, R o o' →
    ∀ path : Option String, Related R (takeArguments o path args) (takeArguments o' path args) := by
  induction args with
  | nil => exact fun h path => .ok path h
  | cons a args ih =>
    intro o o' h path
    rw [takeArguments_cons, takeArguments_cons]
    exact (hR.takeArgument h path (.ofText a)).bind fun o o' path h => ih h path

/-- One argument more, which relates the options before and after it. -/
theorem parseOptions_insert (hR : Stays R) {a : String}
    (ha : ∀ o path, ∃ o', takeArgument o path (.ofText a) = .ok (o', path) ∧ R o' o)
    (before after : List String) :
    Related R (parseOptions (before ++ a :: after)) (parseOptions (before ++ after)) := by
  have htake : ∀ (before : List String) (o : Options) (path : Option String),
      Related R (takeArguments o path (before ++ a :: after))
        (takeArguments o path (before ++ after)) := by
    intro before
    induction before with
    | nil =>
      intro o path
      obtain ⟨o', htake, h⟩ := ha o path
      rw [List.nil_append, takeArguments_cons, htake]
      exact takeArguments_related hR after h path
    | cons b before ih =>
      intro o path
      rw [List.cons_append, List.cons_append, takeArguments_cons, takeArguments_cons]
      -- The argument `b` stands in both lists and is taken in the same way.
      cases takeArgument o path (.ofText b) with
      | error fault => exact .error fault
      | ok x => exact ih x.1 x.2
  refine (htake before {} none).bind fun o o' path h => ?_
  cases path with
  | none => exact .error .missingFile
  | some path => exact .ok path h

end Related

/-! ## The two kinds of options -/

def SameLengths (o o' : Options) : Prop :=
  o.checkLengths = o'.checkLengths

/-- The options `o` are the options `o'` without the rules on lengths. -/
def WithoutLengths (o o' : Options) : Prop :=
  o = { o' with checkLengths := false }

theorem WithoutLengths.checkLengths {o o' : Options} (h : WithoutLengths o o') :
    o.checkLengths = false :=
  congrArg Options.checkLengths h

theorem stays_sameLengths : Stays SameLengths where
  format _ h := h
  color _ h := h
  noLengths _ := rfl

theorem stays_withoutLengths : Stays WithoutLengths where
  format _ h := by rw [h]; rfl
  color _ h := by rw [h]; rfl
  noLengths h := by rw [h]; rfl

theorem parseOptions_insert_output {a : String} (ha : isOutputOption a)
    (before after : List String) :
    Related SameLengths (parseOptions (before ++ a :: after)) (parseOptions (before ++ after)) :=
  parseOptions_insert stays_sameLengths (takeArgument_output ha) before after

theorem parseOptions_insert_noLengthChecks (before after : List String) :
    Related WithoutLengths (parseOptions (before ++ noLengthChecks :: after))
      (parseOptions (before ++ after)) :=
  parseOptions_insert stays_withoutLengths
    (fun o path => ⟨_, takeArgument_noLengthChecks o path, rfl⟩) before after

end SchemaTypes.CommandLine
