/-
Which arguments a command on a document accepts, what it takes from them, and
what it complains about otherwise.

All of this is told of the arguments as texts. The arguments that a command
has taken in so far are valid options and at most one path, and its options
and path are those that they give (`TakenIn`); one more argument keeps that,
or it is at fault and ends the reading with the complaint about it
(`TakenIn.step`). So the first argument at fault is the one reported.
-/
import SchemaTypes.Proofs.OptionArguments
import Mathlib.Data.List.Basic

namespace SchemaTypes.CommandLine

/-! ## Arguments as texts -/

/-- Whether an argument has a dash in front, as options do. -/
def isDashed (a : String) : Bool :=
  a.toList.head? = some '-'

/-- The arguments that are no options. -/
def paths (args : List String) : List String :=
  args.filter (!isDashed ·)

def formatOption (f : OutputFormat) : String :=
  "--format=" ++ f.text

def colorOption (m : ColorMode) : String :=
  "--color=" ++ m.text

/-- The options that there are. -/
inductive IsOption : String → Prop
  | format (f : OutputFormat) : IsOption (formatOption f)
  | color (m : ColorMode) : IsOption (colorOption m)
  | noLengthChecks : IsOption noLengthChecks

theorem isOption_iff {a : String} : IsOption a ↔
    (∃ f ∈ [OutputFormat.terminal, .json], a = formatOption f) ∨
    (∃ m ∈ [ColorMode.auto, .always, .never], a = colorOption m) ∨ a = noLengthChecks := by
  constructor
  · intro h
    cases h with
    | format f => exact .inl ⟨f, by cases f <;> simp, rfl⟩
    | color m => exact .inr (.inl ⟨m, by cases m <;> simp, rfl⟩)
    | noLengthChecks => exact .inr (.inr rfl)
  · rintro (⟨f, -, rfl⟩ | ⟨m, -, rfl⟩ | rfl)
    · exact .format f
    · exact .color m
    · exact .noLengthChecks

instance : DecidablePred IsOption :=
  fun _ => decidable_of_iff _ isOption_iff.symm

/-- Of several values, those whose texts are among the arguments, in their order. -/
def valuesGiven {α : Type} (values : List α) (text : α → String) (args : List String) : List α :=
  args.filterMap fun a => values.find? (text · == a)

def formatsGiven (args : List String) : List OutputFormat :=
  valuesGiven [.terminal, .json] formatOption args

def colorsGiven (args : List String) : List ColorMode :=
  valuesGiven [.auto, .always, .never] colorOption args

/-- The options that arguments give: of the same kind the last one counts. -/
def optionsGiven (args : List String) : Options where
  format := (formatsGiven args).getLast?.getD .terminal
  color := (colorsGiven args).getLast?.getD .auto
  checkLengths := !args.contains noLengthChecks

/-- An argument at fault behind others, with the complaint about it: no option in spite of its
dash, or one path more. -/
inductive AtFault (before : List String) : String → String → Prop
  | format {word : String} (invalid : ¬IsOption ("--format=" ++ word)) :
    AtFault before ("--format=" ++ word)
      ("unknown format `" ++ word ++ "` (expected terminal or json)")
  | color {word : String} (invalid : ¬IsOption ("--color=" ++ word)) :
    AtFault before ("--color=" ++ word)
      ("unknown color mode `" ++ word ++ "` (expected auto, always or never)")
  | option {a : String} (dashed : isDashed a) (invalid : ¬IsOption a)
    (noFormat : ∀ word, a ≠ "--format=" ++ word) (noColor : ∀ word, a ≠ "--color=" ++ word) :
    AtFault before a ("unknown option `" ++ a ++ "`")
  | path {a : String} (undashed : ¬isDashed a) (second : paths before ≠ []) :
    AtFault before a ("unexpected argument `" ++ a ++ "`")

/-- No argument is at fault. -/
def Faultless (args : List String) : Prop :=
  ∀ before a after text, args = before ++ a :: after → ¬AtFault before a text

/-- The complaint is about the first argument at fault. -/
def Complains (args : List String) (text : String) : Prop :=
  ∃ before a after, args = before ++ a :: after ∧ Faultless before ∧ AtFault before a text

variable {a b text word : String} {args args' before : List String} {o o' : Options}
  {path path' : Option String} {fault : OptionFault}

/-! ## What an argument says -/

theorem after?_eq_some_iff {beginning : String} :
    after? beginning text = some word ↔ text = beginning ++ word := by
  simp only [after?, ← String.toList_inj, String.toList_append]
  split
  · next h =>
    obtain ⟨rest, hrest⟩ := List.isPrefixOf_iff_prefix.1 h
    simp [← hrest, ← String.toList_inj, eq_comm]
  · next h =>
    simp only [reduceCtorEq, false_iff]
    exact fun he => h (List.isPrefixOf_iff_prefix.2 ⟨_, he.symm⟩)

theorem Argument.ofText_format (word : String) : ofText ("--format=" ++ word) = .format word := by
  rw [ofText, after?_eq_some_iff.2 rfl]

theorem Argument.ofText_color (word : String) : ofText ("--color=" ++ word) = .color word := by
  have hformat : after? "--format=" ("--color=" ++ word) = none := by simp [after?]
  rw [ofText, hformat, after?_eq_some_iff.2 rfl]

theorem Argument.ofText_noLengthChecks :
    ofText CommandLine.noLengthChecks = .noLengthChecks := by decide

/-- What an argument says, read off its text. -/
inductive Says : String → Argument → Prop
  | format (word : String) : Says ("--format=" ++ word) (.format word)
  | color (word : String) : Says ("--color=" ++ word) (.color word)
  | noLengthChecks : Says noLengthChecks .noLengthChecks
  | otherOption {a : String} (dashed : isDashed a) (noFormat : ∀ word, a ≠ "--format=" ++ word)
    (noColor : ∀ word, a ≠ "--color=" ++ word) (noLengths : a ≠ CommandLine.noLengthChecks) :
    Says a (.otherOption a)
  | path {a : String} (undashed : ¬isDashed a) : Says a (.path a)

theorem says_ofText (a : String) : Says a (.ofText a) := by
  unfold Argument.ofText
  split
  · next word hword =>
    obtain rfl := after?_eq_some_iff.1 hword
    exact .format word
  next hformat =>
  split
  · next word hword =>
    obtain rfl := after?_eq_some_iff.1 hword
    exact .color word
  next hcolor =>
  split
  · next heq =>
    subst heq
    exact .noLengthChecks
  next hlengths =>
  split
  · next hdash =>
    refine .otherOption (decide_eq_true hdash) (fun word he => ?_) (fun word he => ?_) hlengths
    · simp [after?_eq_some_iff.2 he] at hformat
    · simp [after?_eq_some_iff.2 he] at hcolor
  · next hdash => exact .path (by simpa [isDashed] using hdash)

/-! ## What is given -/

theorem IsOption.isDashed (h : IsOption a) : isDashed a := by
  cases h with
  | format f => simp [CommandLine.isDashed, formatOption]
  | color m => simp [CommandLine.isDashed, colorOption]
  | noLengthChecks => decide

theorem IsOption.ofText (h : IsOption a) :
    (∃ f : OutputFormat, Argument.ofText a = .format f.text) ∨
    (∃ m : ColorMode, Argument.ofText a = .color m.text) ∨
    Argument.ofText a = .noLengthChecks := by
  cases h with
  | format f => exact .inl ⟨f, Argument.ofText_format f.text⟩
  | color m => exact .inr (.inl ⟨m, Argument.ofText_color m.text⟩)
  | noLengthChecks => exact .inr (.inr Argument.ofText_noLengthChecks)

theorem IsOption.exists_format (h : IsOption ("--format=" ++ word)) :
    ∃ f : OutputFormat, word = f.text := by
  simpa [Argument.ofText_format] using h.ofText

theorem IsOption.exists_color (h : IsOption ("--color=" ++ word)) :
    ∃ m : ColorMode, word = m.text := by
  simpa [Argument.ofText_color] using h.ofText

theorem OutputFormat.parse?_eq_some_iff {f : OutputFormat} :
    OutputFormat.parse? word = some f ↔ word = f.text := by
  unfold OutputFormat.parse?
  split <;> cases f <;> simp_all [OutputFormat.text]

theorem parse?_color_eq_some_iff {m : ColorMode} :
    ColorMode.parse? word = some m ↔ word = m.text := by
  unfold ColorMode.parse?
  split <;> cases m <;> simp_all [ColorMode.text]

theorem valuesGiven_concat {α : Type} (values : List α) (text : α → String) (args : List String)
    (a : String) : valuesGiven values text (args ++ [a]) =
      valuesGiven values text args ++ (values.find? (text · == a)).toList := by
  rw [valuesGiven, List.filterMap_append]
  cases h : values.find? (text · == a) <;> simp [valuesGiven, h]

theorem optionsGiven_format (args : List String) (f : OutputFormat) :
    optionsGiven (args ++ [formatOption f]) = { optionsGiven args with format := f } := by
  have hformat : [OutputFormat.terminal, .json].find? (formatOption · == formatOption f) = some f := by
    cases f <;> decide
  have hcolor : [ColorMode.auto, .always, .never].find? (colorOption · == formatOption f) = none := by
    cases f <;> decide
  have hlengths : ¬noLengthChecks = formatOption f := by cases f <;> decide
  simp [optionsGiven, formatsGiven, colorsGiven, valuesGiven_concat, hformat, hcolor, hlengths]

theorem optionsGiven_color (args : List String) (m : ColorMode) :
    optionsGiven (args ++ [colorOption m]) = { optionsGiven args with color := m } := by
  have hformat : [OutputFormat.terminal, .json].find? (formatOption · == colorOption m) = none := by
    cases m <;> decide
  have hcolor : [ColorMode.auto, .always, .never].find? (colorOption · == colorOption m) = some m := by
    cases m <;> decide
  have hlengths : ¬noLengthChecks = colorOption m := by cases m <;> decide
  simp [optionsGiven, formatsGiven, colorsGiven, valuesGiven_concat, hformat, hcolor, hlengths]

theorem optionsGiven_noLengthChecks (args : List String) :
    optionsGiven (args ++ [noLengthChecks]) = { optionsGiven args with checkLengths := false } := by
  have hformat : [OutputFormat.terminal, .json].find? (formatOption · == noLengthChecks) = none := by
    decide
  have hcolor : [ColorMode.auto, .always, .never].find? (colorOption · == noLengthChecks) = none := by
    decide
  simp [optionsGiven, formatsGiven, colorsGiven, valuesGiven_concat, hformat, hcolor]

/-- Values are given by arguments with a dash, if their texts have one. -/
theorem valuesGiven_filter {α : Type} {values : List α} {text : α → String}
    (htext : ∀ x, isDashed (text x)) (args : List String) :
    valuesGiven values text (args.filter isDashed) = valuesGiven values text args := by
  rw [valuesGiven, List.filterMap_filter]
  refine List.filterMap_congr fun a _ => ?_
  split
  · rfl
  · next hdash =>
    rw [eq_comm, List.find?_eq_none]
    rintro x - hx
    exact hdash (eq_of_beq hx ▸ htext x)

theorem optionsGiven_filter (args : List String) :
    optionsGiven (args.filter isDashed) = optionsGiven args := by
  have hlengths : (args.filter isDashed).contains noLengthChecks = args.contains noLengthChecks := by
    rw [Bool.eq_iff_iff, List.contains_iff_mem, List.contains_iff_mem, List.mem_filter]
    exact and_iff_left IsOption.noLengthChecks.isDashed
  rw [optionsGiven, optionsGiven, formatsGiven, formatsGiven, colorsGiven, colorsGiven, hlengths,
    valuesGiven_filter fun f => (IsOption.format f).isDashed,
    valuesGiven_filter fun m => (IsOption.color m).isDashed]

theorem optionsGiven_path (args : List String) (ha : ¬isDashed a) :
    optionsGiven (args ++ [a]) = optionsGiven args := by
  have hfilter : (args ++ [a]).filter isDashed = args.filter isDashed := by simp [ha]
  rw [← optionsGiven_filter, hfilter, optionsGiven_filter]

/-! ## Arguments that are taken in -/

/-- Several arguments are taken in with these options and this path. -/
structure TakenIn (args : List String) (o : Options) (path : Option String) : Prop where
  valid : ∀ a ∈ args, isDashed a → IsOption a
  paths : paths args = path.toList
  options : o = optionsGiven args

theorem faultless_of_valid (hvalid : ∀ a ∈ args, isDashed a → IsOption a)
    (hpaths : (paths args).length ≤ 1) : Faultless args := by
  rintro before a after text rfl hfault
  have hoption : isDashed a → IsOption a := hvalid a (by simp)
  cases hfault with
  | format invalid => exact invalid (hoption (by simp [isDashed]))
  | color invalid => exact invalid (hoption (by simp [isDashed]))
  | option dashed invalid => exact invalid (hoption dashed)
  | path undashed second =>
    have hpos := List.length_pos_iff.2 second
    simp only [paths, List.filter_append, List.length_append, List.filter_cons] at hpaths hpos
    simp [undashed] at hpaths
    omega

namespace TakenIn

theorem nil : TakenIn [] {} none where
  valid := by simp
  paths := rfl
  options := rfl

theorem faultless (h : TakenIn args o path) : Faultless args := by
  refine faultless_of_valid h.valid ?_
  rw [h.paths]
  cases path <;> simp

theorem concat_option (h : TakenIn args o path) (ha : IsOption a)
    (ho : optionsGiven (args ++ [a]) = o') : TakenIn (args ++ [a]) o' path where
  valid b hb hdash := by
    rcases List.mem_append.1 hb with hb | hb
    · exact h.valid b hb hdash
    · exact List.mem_singleton.1 hb ▸ ha
  paths := by simpa [CommandLine.paths, ha.isDashed] using h.paths
  options := ho.symm

theorem concat_path (h : TakenIn args o none) (ha : ¬isDashed a) :
    TakenIn (args ++ [a]) o (some a) where
  valid b hb hdash := by
    rcases List.mem_append.1 hb with hb | hb
    · exact h.valid b hb hdash
    · exact absurd (List.mem_singleton.1 hb ▸ hdash) ha
  paths := by
    have hnil : args.filter (!isDashed ·) = [] := h.paths
    simp [CommandLine.paths, hnil, ha]
  options := (optionsGiven_path args ha).symm ▸ h.options

/-- **One argument more** is taken in, or it is at fault. -/
theorem step (h : TakenIn before o path) (a : String) :
    (∃ o' path', takeArgument o path (.ofText a) = .ok (o', path') ∧
      TakenIn (before ++ [a]) o' path') ∨
    (∃ fault, takeArgument o path (.ofText a) = .error fault ∧ AtFault before a fault.message) := by
  have hsays := says_ofText a
  generalize Argument.ofText a = argument at hsays
  cases hsays with
  | format word =>
    cases hparse : OutputFormat.parse? word with
    | some f =>
      obtain rfl := OutputFormat.parse?_eq_some_iff.1 hparse
      refine .inl ⟨{ o with format := f }, path, by rw [takeArgument, hparse], ?_⟩
      exact h.concat_option (.format f) (h.options ▸ optionsGiven_format before f)
    | none =>
      refine .inr ⟨_, by rw [takeArgument, hparse], .format fun hoption => ?_⟩
      obtain ⟨f, hf⟩ := hoption.exists_format
      simp [OutputFormat.parse?_eq_some_iff.2 hf] at hparse
  | color word =>
    cases hparse : ColorMode.parse? word with
    | some m =>
      obtain rfl := parse?_color_eq_some_iff.1 hparse
      refine .inl ⟨{ o with color := m }, path, by rw [takeArgument, hparse], ?_⟩
      exact h.concat_option (.color m) (h.options ▸ optionsGiven_color before m)
    | none =>
      refine .inr ⟨_, by rw [takeArgument, hparse], .color fun hoption => ?_⟩
      obtain ⟨m, hm⟩ := hoption.exists_color
      simp [parse?_color_eq_some_iff.2 hm] at hparse
  | noLengthChecks =>
    refine .inl ⟨{ o with checkLengths := false }, path, rfl, ?_⟩
    exact h.concat_option .noLengthChecks (h.options ▸ optionsGiven_noLengthChecks before)
  | otherOption dashed noFormat noColor noLengths =>
    refine .inr ⟨_, rfl, .option dashed (fun hoption => ?_) noFormat noColor⟩
    cases hoption with
    | format f => exact noFormat _ rfl
    | color m => exact noColor _ rfl
    | noLengthChecks => exact noLengths rfl
  | path undashed =>
    cases path with
    | none => exact .inl ⟨o, a, rfl, h.concat_path undashed⟩
    | some p => exact .inr ⟨_, rfl, .path undashed (by simp [h.paths])⟩

/-- **Several arguments more** are all taken in, or the first at fault among them ends it. -/
theorem run (args : List String) : ∀ {before : List String} {o : Options} {path : Option String},
    TakenIn before o path →
    (∃ o' path', takeArguments o path args = .ok (o', path') ∧ TakenIn (before ++ args) o' path') ∨
    (∃ fault xs a ys, takeArguments o path args = .error fault ∧ args = xs ++ a :: ys ∧
      Faultless (before ++ xs) ∧ AtFault (before ++ xs) a fault.message) := by
  induction args with
  | nil => exact fun h => .inl ⟨_, _, rfl, by simpa using h⟩
  | cons a args ih =>
    intro before o path h
    rw [takeArguments_cons]
    rcases h.step a with ⟨o', path', htake, h'⟩ | ⟨fault, htake, hfault⟩
    · rw [htake]
      rcases ih h' with ⟨o'', path'', hrest, h''⟩ | ⟨fault, xs, b, ys, hrest, rfl, hfaultless, hfault⟩
      · exact .inl ⟨o'', path'', hrest, by simpa using h''⟩
      · exact .inr ⟨fault, a :: xs, b, ys, hrest, rfl, by simpa using hfaultless,
          by simpa using hfault⟩
    · rw [htake]
      exact .inr ⟨fault, [], a, args, rfl, rfl, by simpa using h.faultless, by simpa using hfault⟩

end TakenIn

/-! ## All arguments -/

/-- **How the arguments are read.** They are accepted, or the first one at fault is complained
about, or none of them is at fault and there is no path. -/
theorem parseOptions_cases (args : List String) :
    (∃ o path, parseOptions args = .ok (o, path) ∧ TakenIn args o (some path)) ∨
    (∃ fault, parseOptions args = .error fault ∧ Complains args fault.message) ∨
    (parseOptions args = .error .missingFile ∧ Faultless args ∧ paths args = []) := by
  rcases TakenIn.nil.run args with ⟨o, path, htake, h⟩ | ⟨fault, xs, a, ys, htake, hargs, hfault⟩
  · cases path with
    | some path => exact .inl ⟨o, path, by rw [parseOptions, htake]; rfl, h⟩
    | none => exact .inr (.inr ⟨by rw [parseOptions, htake]; rfl, h.faultless, h.paths⟩)
  · exact .inr (.inl ⟨fault, by rw [parseOptions, htake]; rfl, xs, a, ys, hargs, hfault⟩)

theorem parseOptions_eq_ok_iff {path : String} :
    parseOptions args = .ok (o, path) ↔ TakenIn args o (some path) := by
  constructor
  · intro hparse
    rcases parseOptions_cases args with
      ⟨o', path', hparse', h⟩ | ⟨fault, hparse', -⟩ | ⟨hparse', -⟩ <;> rw [hparse] at hparse'
    · obtain ⟨rfl, rfl⟩ := Prod.mk.inj (Except.ok.inj hparse')
      exact h
    · cases hparse'
    · cases hparse'
  · intro h
    rcases parseOptions_cases args with
      ⟨o', path', hparse, h'⟩ | ⟨fault, -, xs, a, ys, hargs, -, hfault⟩ | ⟨-, -, hnone⟩
    · obtain rfl : path = path' := by simpa [h.paths] using h'.paths
      rw [hparse, h'.options, h.options]
    · exact (h.faultless xs a ys _ hargs hfault).elim
    · cases hnone.symm.trans h.paths

/-- How options and paths are mixed does not matter. -/
theorem TakenIn.of_interleaved (h : TakenIn args o path)
    (hoptions : args'.filter isDashed = args.filter isDashed)
    (hpaths : CommandLine.paths args' = CommandLine.paths args) : TakenIn args' o path where
  valid a ha hdash := by
    have hmem : a ∈ args.filter isDashed := hoptions ▸ List.mem_filter.2 ⟨ha, hdash⟩
    exact h.valid a (List.mem_filter.1 hmem).1 hdash
  paths := hpaths.trans h.paths
  options := by rw [h.options, ← optionsGiven_filter args, ← hoptions, optionsGiven_filter]

/-- No argument is complained about in the words for the missing file. -/
theorem AtFault.ne_missingFile (h : AtFault before a text) :
    text ≠ OptionFault.missingFile.message := by
  intro heq
  have hhead : text.toList.head? = some 'm' := by rw [heq]; decide
  cases h <;> simp at hhead

/-- **Which arguments are accepted, what they give, and what is complained about.** Accepted is
one path among valid options, however they are mixed; of several options of a kind the last one
counts. Otherwise the complaint is about the first argument at fault, and it is that there is no
file only where no argument is at fault. -/
theorem parseOptions_accepts_iff (args : List String) :
    ((∃ o path, parseOptions args = .ok (o, path)) ↔
      (∀ a ∈ args, isDashed a → IsOption a) ∧ (paths args).length = 1) ∧
    (∀ o path, parseOptions args = .ok (o, path) →
      paths args = [path] ∧ o = optionsGiven args) ∧
    (∀ args', args'.filter isDashed = args.filter isDashed → paths args' = paths args →
      ∀ o path, parseOptions args' = .ok (o, path) ↔ parseOptions args = .ok (o, path)) ∧
    (∀ fault, parseOptions args = .error fault →
      (fault ≠ .missingFile ∧ Complains args fault.message) ∨
      (fault = .missingFile ∧ Faultless args ∧ paths args = [])) := by
  refine ⟨⟨?_, ?_⟩, ?_, ?_, ?_⟩
  · rintro ⟨o, path, hparse⟩
    have h := parseOptions_eq_ok_iff.1 hparse
    exact ⟨h.valid, by simp [h.paths]⟩
  · rintro ⟨hvalid, hlength⟩
    obtain ⟨path, hpath⟩ := List.length_eq_one_iff.1 hlength
    exact ⟨_, path, parseOptions_eq_ok_iff.2 ⟨hvalid, hpath, rfl⟩⟩
  · intro o path hparse
    have h := parseOptions_eq_ok_iff.1 hparse
    exact ⟨h.paths, h.options⟩
  · intro args' hoptions hpaths o path
    rw [parseOptions_eq_ok_iff, parseOptions_eq_ok_iff]
    exact ⟨fun h => h.of_interleaved hoptions.symm hpaths.symm,
      fun h => h.of_interleaved hoptions hpaths⟩
  · intro fault hparse
    rcases parseOptions_cases args with
      ⟨o, path, hparse', -⟩ | ⟨fault', hparse', hfault⟩ | ⟨hparse', hnone⟩ <;> rw [hparse] at hparse'
    · cases hparse'
    · obtain rfl := Except.error.inj hparse'
      obtain ⟨xs, a, ys, hargs, hfaultless, hfault⟩ := hfault
      exact .inl ⟨fun he => hfault.ne_missingFile (congrArg _ he), xs, a, ys, hargs, hfaultless, hfault⟩
    · exact .inr ⟨Except.error.inj hparse', hnone⟩

/-- Of two formats the second counts, and of two arguments at fault the first is reported. -/
theorem parseOptions_accepts_iff_repeated :
    parseOptions ["--format=json", "shop.json", "--no-length-checks", "--format=terminal"] =
      .ok ({ checkLengths := false }, "shop.json") ∧
    parseOptions ["shop.json", "--color=red", "more.json"] = .error (.unknownColor "red") ∧
    Complains ["shop.json", "--color=red", "more.json"]
      "unknown color mode `red` (expected auto, always or never)" := by
  have hfault : parseOptions ["shop.json", "--color=red", "more.json"] =
      .error (.unknownColor "red") := by decide
  obtain ⟨o, path, hparse⟩ := (parseOptions_accepts_iff
    ["--format=json", "shop.json", "--no-length-checks", "--format=terminal"]).1.2 (by decide)
  refine ⟨?_, hfault, ?_⟩
  · obtain ⟨hpath, rfl⟩ := (parseOptions_accepts_iff _).2.1 o path hparse
    obtain rfl : "shop.json" = path := List.head_eq_of_cons_eq hpath
    exact hparse
  · rcases (parseOptions_accepts_iff _).2.2.2 _ hfault with ⟨-, h⟩ | ⟨h, -⟩
    · exact h
    · cases h

end SchemaTypes.CommandLine
