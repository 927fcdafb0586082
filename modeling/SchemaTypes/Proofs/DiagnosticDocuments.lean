/-
What the JSON output writes, and what it can be read as.

Calls are cut at the flushes: each flush writes one document, of what was handed
in since the one before it, and nothing else writes (`output_eq`). Read again, a
document is a list whose items carry the diagnostics one by one
(`carriedBy_toJson`), and an item that carries a diagnostic carries no other
(`CarriedBy.unique`), so that the document tells which diagnostics it is of.
-/
import SchemaTypes.Diagnostic.Emission
import SchemaTypes.Proofs.PrintedJson
import Mathlib.Data.List.Forall2

namespace SchemaTypes

open Json (Reading)

/-! ## What a reading carries -/

/-- The ends of a span fit in 64 bits, as those of a source do, which have 32. -/
def Span.Narrow (s : Span) : Prop :=
  s.start ≤ Json.Number.largestWord ∧ s.stop ≤ Json.Number.largestWord

def Diagnostic.Narrow (d : Diagnostic) : Prop :=
  ∀ l ∈ d.labels, l.span.Narrow

structure Label.CarriedBy (l : Label) (r : Reading) : Prop where
  start : r.member? "start" = some (.number (.natural l.span.start))
  stop : r.member? "end" = some (.number (.natural l.span.stop))
  message : r.member? "message" = some (.text l.message)
  isPrimary : r.member? "primary" = some (.bool l.isPrimary)

/-- A hint without a replacement has no member for one. -/
structure Suggestion.CarriedBy (hint : Suggestion) (r : Reading) : Prop where
  message : r.member? "message" = some (.text hint.message)
  replacement : r.member? "replacement" = hint.replacement.map .text

/-- A member with as many items as there are things, each carrying one of them, in their order. -/
def CarriedInOrder {α : Type} (carried : α → Reading → Prop) (things : List α)
    (member : Option Reading) : Prop :=
  ∃ items, member = some (.list items .closed) ∧ List.Forall₂ carried things items

/-- The same, except that there is no member if there are no things. -/
def CarriedIfAny {α : Type} (carried : α → Reading → Prop) (things : List α)
    (member : Option Reading) : Prop :=
  (things = [] ∧ member = none) ∨ (things ≠ [] ∧ CarriedInOrder carried things member)

structure Diagnostic.CarriedBy (d : Diagnostic) (r : Reading) : Prop where
  code : r.member? "code" = some (.text d.code.text)
  severity : r.member? "severity" = some (.text d.severity.text)
  message : r.member? "message" = some (.text d.message)
  labels : CarriedInOrder Label.CarriedBy d.labels (r.member? "labels")
  notes : CarriedIfAny (fun note item => item = .text note) d.notes (r.member? "notes")
  suggestions : CarriedIfAny Suggestion.CarriedBy d.suggestions (r.member? "suggestions")

/-! ## A reading carries one thing at most -/

section Unique

open Relator (LeftUnique)

variable {α : Type} {carried : α → Reading → Prop} {as bs : List α} {member : Option Reading}

theorem CarriedInOrder.unique (h : LeftUnique carried) (ha : CarriedInOrder carried as member)
    (hb : CarriedInOrder carried bs member) : as = bs := by
  obtain ⟨items, rfl, has⟩ := ha
  obtain ⟨items', hitems, hbs⟩ := hb
  obtain rfl : items = items' := by simpa using hitems
  exact List.left_unique_forall₂' h has hbs

theorem CarriedIfAny.unique (h : LeftUnique carried) (ha : CarriedIfAny carried as member)
    (hb : CarriedIfAny carried bs member) : as = bs := by
  rcases ha with ⟨rfl, hnone⟩ | ⟨-, ha⟩
  · rcases hb with ⟨rfl, -⟩ | ⟨-, items, hsome, -⟩
    · rfl
    · rw [hnone] at hsome
      cases hsome
  · rcases hb with ⟨-, hnone⟩ | ⟨-, hb⟩
    · obtain ⟨items, hsome, -⟩ := ha
      rw [hnone] at hsome
      cases hsome
    · exact ha.unique h hb

theorem Label.carriedBy_unique : LeftUnique Label.CarriedBy := by
  intro l l' r hl hl'
  have hstart := hl.start.symm.trans hl'.start
  have hstop := hl.stop.symm.trans hl'.stop
  have hmessage := hl.message.symm.trans hl'.message
  have hprimary := hl.isPrimary.symm.trans hl'.isPrimary
  simp only [Option.some.injEq, Reading.number.injEq, Json.Number.natural.injEq,
    Reading.text.injEq, Reading.bool.injEq] at hstart hstop hmessage hprimary
  obtain ⟨⟨start, stop⟩, message, isPrimary⟩ := l
  obtain ⟨⟨start', stop'⟩, message', isPrimary'⟩ := l'
  simp_all

theorem Suggestion.carriedBy_unique : LeftUnique Suggestion.CarriedBy := by
  intro hint hint' r h h'
  have hmessage := h.message.symm.trans h'.message
  have hreplacement := h.replacement.symm.trans h'.replacement
  have htext : Function.Injective Reading.text := fun _ _ => Reading.text.inj
  have hsame := Option.map_injective htext hreplacement
  cases hint
  cases hint'
  simp_all

theorem Code.text_injective : Function.Injective Code.text := by
  intro c c' h
  cases c <;> cases c' <;> first | rfl | exact absurd h (by decide)

theorem Severity.text_injective : Function.Injective Severity.text := by
  intro x y h
  cases x <;> cases y <;> first | rfl | exact absurd h (by decide)

theorem Diagnostic.carriedBy_unique : LeftUnique Diagnostic.CarriedBy := by
  intro d d' r h h'
  have hcode := Code.text_injective (Reading.text.inj (Option.some.inj (h.code.symm.trans h'.code)))
  have hseverity := Severity.text_injective
    (Reading.text.inj (Option.some.inj (h.severity.symm.trans h'.severity)))
  have hmessage := Reading.text.inj (Option.some.inj (h.message.symm.trans h'.message))
  have hlabels := h.labels.unique Label.carriedBy_unique h'.labels
  have hnotes := h.notes.unique (fun _ _ _ h h' => Reading.text.inj (h.symm.trans h')) h'.notes
  have hsuggestions := h.suggestions.unique Suggestion.carriedBy_unique h'.suggestions
  cases d
  cases d'
  simp_all

end Unique

/-! ## What is written carries what it is written of -/

theorem CarriedInOrder.map {α : Type} {carried : α → Reading → Prop} {encode : α → Json.Value}
    (h : ∀ a, carried a (.ofValue (encode a))) (things : List α) :
    CarriedInOrder carried things (some (.ofValue (.list (things.map encode)))) := by
  refine ⟨_, by rw [Reading.ofValue], ?_⟩
  rw [Reading.ofValues_eq_map, List.map_map, List.forall₂_map_right_iff, List.forall₂_same]
  exact fun a _ => h a

theorem Label.carriedBy_toJson (l : Label) : l.CarriedBy (.ofValue l.toJson) := by
  constructor <;> rfl

theorem Suggestion.carriedBy_toJson (hint : Suggestion) :
    hint.CarriedBy (.ofValue hint.toJson) := by
  obtain ⟨message, replacement⟩ := hint
  cases replacement with
  | none | some replacement => constructor <;> rfl

theorem Diagnostic.carriedBy_toJson (d : Diagnostic) : d.CarriedBy (.ofValue d.toJson) where
  code := rfl
  severity := rfl
  message := rfl
  labels := .map Label.carriedBy_toJson d.labels
  notes := by
    obtain ⟨code, severity, message, labels, notes, suggestions⟩ := d
    cases notes with
    | nil => cases suggestions <;> exact .inl ⟨rfl, rfl⟩
    | cons note notes =>
      have hcarried : ∀ note, Reading.ofValue (.text note) = .text note := fun _ => rfl
      exact .inr ⟨List.cons_ne_nil _ _, .map hcarried (note :: notes)⟩
  suggestions := by
    obtain ⟨code, severity, message, labels, notes, suggestions⟩ := d
    cases suggestions with
    | nil => cases notes <;> exact .inl ⟨rfl, rfl⟩
    | cons hint hints =>
      have hcarried := CarriedInOrder.map Suggestion.carriedBy_toJson (hint :: hints)
      cases notes <;> exact .inr ⟨List.cons_ne_nil _ _, hcarried⟩

theorem Diagnostic.narrow_toJson {d : Diagnostic} (h : d.Narrow) : d.toJson.Narrow := by
  obtain ⟨code, severity, message, labels, notes, suggestions⟩ := d
  have hlabels : Json.Value.NarrowItems (labels.map Label.toJson) := by
    rw [Json.Value.narrowItems_iff]
    intro v hv
    obtain ⟨l, hl, rfl⟩ := List.mem_map.1 hv
    have := h l hl
    simpa [Label.toJson, Json.Value.Narrow, Json.Value.NarrowMembers, Span.Narrow] using this
  have hnotes : Json.Value.NarrowItems (notes.map .text) := by
    rw [Json.Value.narrowItems_iff]
    intro v hv
    obtain ⟨note, -, rfl⟩ := List.mem_map.1 hv
    simp [Json.Value.Narrow]
  have hsuggestions : Json.Value.NarrowItems (suggestions.map Suggestion.toJson) := by
    rw [Json.Value.narrowItems_iff]
    intro v hv
    obtain ⟨⟨message, replacement⟩, -, rfl⟩ := List.mem_map.1 hv
    cases replacement <;> simp [Suggestion.toJson, Json.Value.objectOf, Json.Value.Narrow,
      Json.Value.NarrowMembers]
  cases notes <;> cases suggestions <;>
    simp_all [Diagnostic.toJson, Json.Value.objectOf, Json.Value.Narrow, Json.Value.NarrowMembers]

namespace JsonOutput

/-! ## One document -/

/-- A document is read as a list with nothing but white space behind it. -/
theorem ofText_document {ds : List Diagnostic} (h : ∀ d ∈ ds, d.Narrow) :
    Reading.ofText (document ds) =
      (.list (ds.map fun d => .ofValue d.toJson) .closed, some ['\n']) := by
  have hnarrow : (Json.Value.list (ds.map Diagnostic.toJson)).Narrow := by
    rw [Json.Value.Narrow, Json.Value.narrowItems_iff]
    intro v hv
    obtain ⟨d, hd, rfl⟩ := List.mem_map.1 hv
    exact Diagnostic.narrow_toJson (h d hd)
  have hstops : Json.Number.Stops "\n".toList := by
    intro c hc
    cases hc
    decide
  rw [document, Reading.ofText_pretty hnarrow hstops]
  simp [Reading.ofValue, Reading.ofValues_eq_map]

/-- A text is one complete document that carries diagnostics in their order. -/
def Carries (text : String) (ds : List Diagnostic) : Prop :=
  ∃ items rest, Reading.ofText text = (.list items .closed, rest) ∧ Reading.isWhole rest ∧
    List.Forall₂ Diagnostic.CarriedBy ds items

theorem carries_document {ds : List Diagnostic} (h : ∀ d ∈ ds, d.Narrow) :
    Carries (document ds) ds := by
  refine ⟨_, _, ofText_document h, by decide, ?_⟩
  rw [List.forall₂_map_right_iff, List.forall₂_same]
  exact fun d _ => d.carriedBy_toJson

theorem Carries.unique {text : String} {ds es : List Diagnostic} (hd : Carries text ds)
    (he : Carries text es) : ds = es := by
  obtain ⟨items, rest, hread, -, hds⟩ := hd
  obtain ⟨items', rest', hread', -, hes⟩ := he
  obtain rfl : items = items' := by simpa using congrArg Prod.fst (hread.symm.trans hread')
  exact List.left_unique_forall₂' Diagnostic.carriedBy_unique hds hes

/-! ## Calls -/

/-- What a call hands in. -/
def handedIn : Emission → List Diagnostic
  | .one d => [d]
  | .all ds => ds
  | .totals _ _ | .flush => []

def isFlush : Emission → Bool
  | .flush => true
  | _ => false

/-- What is handed in before each flush and after the one before it. What is handed in after the
last flush is in none of the batches. -/
def batches (calls : List Emission) : List (List Diagnostic) :=
  ((calls.splitOnP isFlush).dropLast).map (·.flatMap handedIn)

/-- The batches if some diagnostics are held back at first. -/
theorem written_foldl (calls : List Emission) : ∀ o : JsonOutput,
    (calls.foldl step o).written = o.written ++ String.join
      ((((calls.splitOnP isFlush).map (·.flatMap handedIn)).modifyHead
        (o.pending ++ ·)).dropLast.map document) := by
  induction calls with
  | nil => simp
  | cons c calls ih =>
    intro o
    rw [List.foldl_cons, ih, List.splitOnP_cons_eq_if_modifyHead]
    have hne := List.splitOnP_ne_nil isFlush calls
    obtain ⟨first, others, hsplit⟩ := List.exists_cons_of_ne_nil hne
    rw [hsplit]
    cases c with
    | one d => simp [isFlush, step, handedIn]
    | all ds => simp [isFlush, step, handedIn]
    | totals errors warnings => simp [isFlush, step, handedIn]
    | flush => simp [isFlush, step, String.append_assoc]

/-- Each flush writes the document of its batch, and nothing else writes. -/
theorem output_eq (calls : List Emission) :
    output calls = String.join ((batches calls).map document) := by
  rw [output, written_foldl]
  have hfirst : ∀ parts : List (List Diagnostic), parts.modifyHead (fun ds => ds) = parts := by
    intro parts
    cases parts <;> rfl
  simp [batches, hfirst, List.map_dropLast]

theorem length_batches (calls : List Emission) : (batches calls).length = calls.countP isFlush := by
  have hsplit : (calls.splitOnP isFlush).length = calls.countP isFlush + 1 := by
    induction calls with
    | nil => simp
    | cons c calls ih =>
      rw [List.splitOnP_cons_eq_if_modifyHead, List.countP_cons]
      split <;> simp [ih]
  simp [batches, hsplit]

theorem mem_of_mem_splitOnP {calls part : List Emission} {c : Emission}
    (hpart : part ∈ calls.splitOnP isFlush) (hc : c ∈ part) : c ∈ calls := by
  induction calls generalizing part with
  | nil =>
    obtain rfl : part = [] := by simpa using hpart
    exact hc
  | cons e calls ih =>
    obtain ⟨first, others, hsplit⟩ :=
      List.exists_cons_of_ne_nil (List.splitOnP_ne_nil isFlush calls)
    rw [List.splitOnP_cons_eq_if_modifyHead] at hpart
    split at hpart
    · rcases List.mem_cons.1 hpart with rfl | hpart
      · cases hc
      · exact List.mem_cons_of_mem _ (ih hpart hc)
    · rw [hsplit, List.modifyHead_cons] at hpart
      rcases List.mem_cons.1 hpart with rfl | hpart
      · rcases List.mem_cons.1 hc with rfl | hc
        · exact List.mem_cons_self
        · exact List.mem_cons_of_mem _ (ih (by simp [hsplit]) hc)
      · exact List.mem_cons_of_mem _ (ih (by simp [hsplit, hpart]) hc)

theorem exists_handedIn {calls : List Emission} {ds : List Diagnostic} {d : Diagnostic}
    (hds : ds ∈ batches calls) (hd : d ∈ ds) : ∃ c ∈ calls, d ∈ handedIn c := by
  obtain ⟨part, hpart, rfl⟩ := List.mem_map.1 hds
  obtain ⟨c, hc, hd⟩ := List.mem_flatMap.1 hd
  exact ⟨c, mem_of_mem_splitOnP ((List.dropLast_sublist _).mem hpart) hc, hd⟩

/-- **What is written tells what was handed in.** Each flush writes one complete document and no
other call writes; the document of a batch is read as a list that carries the diagnostics of the
batch one by one with all that they have; and documents of different batches are different. -/
theorem output_carries {calls : List Emission} (h : ∀ c ∈ calls, ∀ d ∈ handedIn c, d.Narrow) :
    output calls = String.join ((batches calls).map document) ∧
      (batches calls).length = calls.countP isFlush ∧
      (∀ ds ∈ batches calls, Carries (document ds) ds) ∧
      ∀ ds es, (∀ d ∈ ds, d.Narrow) → (∀ d ∈ es, d.Narrow) → document ds = document es →
        ds = es := by
  refine ⟨output_eq calls, length_batches calls, fun ds hds => ?_, fun ds es hds hes hsame => ?_⟩
  · refine carries_document fun d hd => ?_
    obtain ⟨c, hc, hd⟩ := exists_handedIn hds hd
    exact h c hc d hd
  · have hcarries := carries_document hds
    rw [hsame] at hcarries
    exact hcarries.unique (carries_document hes)

/-- A diagnostic with texts that need escapes, and with everything that can be left out. -/
def awkward : Diagnostic where
  code := .fieldNameCase
  message := "a \"quote\", a \\, a\nline and a \x01"
  labels := [⟨⟨10, 5⟩, "", true⟩]
  notes := [""]
  suggestions := [⟨"\t", some "\\u0041"⟩]

theorem output_carries_awkward :
    let calls := [.one awkward, .flush, .flush, .totals 1 0, .all [{ code := .finalExtended }]]
    (∀ c ∈ calls, ∀ d ∈ handedIn c, d.Narrow) ∧ batches calls = [[awkward], []] ∧
      Carries (document [awkward]) [awkward] := by
  intro calls
  have h : ∀ c ∈ calls, ∀ d ∈ handedIn c, d.Narrow := by
    simp [calls, handedIn, Diagnostic.Narrow, Span.Narrow, awkward, Json.Number.largestWord]
  have hbatches : batches calls = [[awkward], []] := rfl
  refine ⟨h, hbatches, (output_carries h).2.2.1 [awkward] ?_⟩
  rw [hbatches]
  exact List.mem_cons_self

end JsonOutput

end SchemaTypes
