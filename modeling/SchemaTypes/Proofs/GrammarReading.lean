/-
What is read of a text that the grammar derives.

A tree has a reading unless a number in it is out of range (`Tree.reading?`).
A text that denotes the tree is read as that, with its white space and escapes
gone, and is not read to its end if the tree has no reading
(`reads_of_spells`). So what a document is read of a text depends on nothing
but the tree (`read?_eq_ok_iff`).
-/
import SchemaTypes.Proofs.SettledNumbers
import SchemaTypes.Document.Basic
import Mathlib.Data.List.DropRight

namespace SchemaTypes.Json

/-! ## Texts -/

theorem fourHex_of_isUnit {digits : List Char} {n : Nat} (h : IsUnit digits n) (rest : List Char) :
    fourHex (digits ++ rest) = .ok (n, rest) := by
  obtain ⟨ha, hb, hc, hd⟩ := h
  simp [fourHex, ha, hb, hc, hd]

theorem unescape_short {letter c : Char} (h : (letter, c) ∈ shortEscapes) (rest : List Char) :
    unescape (letter :: rest) = .ok (c, rest) := by
  simp only [shortEscapes, List.mem_cons, Prod.mk.injEq, List.not_mem_nil, or_false] at h
  rcases h with ⟨rfl, rfl⟩ | ⟨rfl, rfl⟩ | ⟨rfl, rfl⟩ | ⟨rfl, rfl⟩ | ⟨rfl, rfl⟩ | ⟨rfl, rfl⟩ |
    ⟨rfl, rfl⟩ | ⟨rfl, rfl⟩ <;> rfl

/-- A text is read with its escapes undone. -/
theorem readText_of_spells {cs s rest : List Char} (h : SpellsText cs s rest) :
    ∀ before, readText before cs = .ok (String.ofList (before.reverse ++ s), rest) := by
  induction h with
  | close rest => intro before; rw [readText_quote, List.append_nil]
  | plain hquote hescape hcontrol more ih =>
    intro before
    rw [readText_plain before _ hquote hescape (by omega), ih]
    simp
  | escape h more ih =>
    intro before
    rw [readText_escape before (unescape_short h _), ih]
    simp
  | @unit digits cs s rest n h hleading htrailing more ih =>
    intro before
    have hunit : unescape ('u' :: (digits ++ cs)) = .ok (Char.ofNat n, cs) := by
      simp [unescape, codeUnits, fourHex_of_isUnit h, hleading, htrailing, bind, Except.bind, pure,
        Except.pure]
    rw [readText_escape before hunit, ih]
    simp
  | @pair digits digits' cs s rest n n' h hleading h' htrailing more ih =>
    intro before
    have hunit : isTrailing n = false := by
      simp only [isLeading, Bool.and_eq_true, decide_eq_true_eq] at hleading
      simp only [isTrailing, Bool.and_eq_false_iff, decide_eq_false_iff_not]
      omega
    have hpair : unescape ('u' :: (digits ++ '\\' :: 'u' :: (digits' ++ cs))) =
        .ok (ofPair n n', cs) := by
      simp [unescape, codeUnits, fourHex_of_isUnit h, fourHex_of_isUnit h', hleading, hunit,
        trailingUnit, htrailing, bind, Except.bind, pure, Except.pure]
    rw [readText_escape before hpair, ih]
    simp

/-! ## White space -/

namespace Reading

variable {gap cs rest : List Char}

theorem dropBlank_append (hgap : Blank gap) (cs : List Char) :
    dropBlank (gap ++ cs) = dropBlank cs :=
  List.dropWhile_append_of_pos hgap

theorem value_append_blank (hgap : Blank gap) (steps : Nat) (cs : List Char) :
    value steps (gap ++ cs) = value steps cs := by
  induction gap with
  | nil => rfl
  | cons c gap ih =>
    rw [List.cons_append, value_blank (hgap c List.mem_cons_self),
      ih fun d hd => hgap d (List.mem_cons_of_mem c hd)]

theorem stops_append (hgap : Blank gap) (hrest : Number.Stops rest) :
    Number.Stops (gap ++ rest) := by
  cases gap with
  | nil => exact hrest
  | cons c gap =>
    intro d hd
    obtain rfl : c = d := by simpa using hd
    have hblank := hgap c List.mem_cons_self
    simp only [isBlank, Bool.or_eq_true, beq_iff_eq] at hblank
    rcases hblank with ((rfl | rfl) | rfl) | rfl <;> decide

theorem value_dropBlank (steps : Nat) (cs : List Char) :
    value steps (dropBlank cs) = value steps cs := by
  cases steps with
  | zero => rfl
  | succ steps =>
    have hdrop : dropBlank (dropBlank cs) = dropBlank cs := List.dropWhile_idempotent ..
    rw [value, value, hdrop]

theorem items_dropBlank (steps : Nat) (cs : List Char) :
    items steps (dropBlank cs) = items steps cs := by
  cases steps with
  | zero => rfl
  | succ steps => rw [items, items, value_dropBlank]

end Reading

/-! ## Trees -/

mutual

/-- The reading of a tree, unless a number in it is out of range. -/
def Tree.reading? : Tree → Option Reading
  | .null => some .null
  | .bool b => some (.bool b)
  | .number lexeme => (Number.ofLexeme? lexeme).map .number
  | .text s => some (.text s)
  | .list ts => (readings? ts).map (.list · .closed)
  | .object ms => (memberReadings? ms).map (.object · .closed)

def Tree.readings? : List Tree → Option (List Reading)
  | [] => some []
  | t :: ts => do
    let r ← reading? t
    let rs ← readings? ts
    pure (r :: rs)

def Tree.memberReadings? : List (String × Tree) → Option (List (String × Reading))
  | [] => some []
  | (k, t) :: ms => do
    let r ← reading? t
    let rs ← memberReadings? ms
    pure ((k, r) :: rs)

end

namespace Reading

open SchemaTypes.Json.Tree (reading? readings? memberReadings?)

variable {cs rest : List Char} {t : Tree} {ts : List Tree} {ms : List (String × Tree)}

/-- A value is read as a tree, with this rest of the text, or not to its end. -/
def ReadsValue (steps : Nat) (cs : List Char) (t : Tree) (rest : List Char) : Prop :=
  (t.reading?).elim (∃ r, value steps cs = (r, none)) fun r => value steps cs = (r, some rest)

def ReadsItems (steps : Nat) (cs : List Char) (ts : List Tree) (rest : List Char) : Prop :=
  (readings? ts).elim (∃ found ending, items steps cs = (found, ending, none)) fun rs =>
    items steps cs = (rs, .closed, some rest)

def ReadsMembers (steps : Nat) (cs : List Char) (ms : List (String × Tree)) (rest : List Char) :
    Prop :=
  (memberReadings? ms).elim (∃ found ending, members steps cs = (found, ending, none)) fun rs =>
    members steps cs = (rs, .closed, some rest)

theorem elim_cases {α : Type} {o : Option α} {p : Prop} {q : α → Prop} (h : o.elim p q) :
    (o = none ∧ p) ∨ ∃ a, o = some a ∧ q a := by
  cases o with
  | none => exact .inl ⟨rfl, h⟩
  | some a => exact .inr ⟨a, rfl, h⟩

/-! One step into a list or an object, and from one item or member to the next. -/

theorem ReadsItems.value {steps : Nat} {c : Char} {after : List Char}
    (h : ReadsItems steps cs ts rest) (hstart : dropBlank cs = c :: after) (hc : c ≠ ']') :
    ReadsValue (steps + 1) ('[' :: cs) (.list ts) rest := by
  have hvalue : Reading.value (steps + 1) ('[' :: cs) =
      (.list (items steps cs).1 (items steps cs).2.1, (items steps cs).2.2) := by
    have hopen : dropBlank ('[' :: cs) = '[' :: cs := rfl
    rw [← items_dropBlank, hstart, Reading.value]
    simp [hopen, hstart, hc]
  rw [ReadsValue, hvalue, reading?]
  obtain ⟨hread, found, ending, hitems⟩ | ⟨rs, hread, hitems⟩ := elim_cases h <;>
    simp [hread, hitems]

theorem ReadsMembers.value {steps : Nat} {after : List Char}
    (h : ReadsMembers steps after ms rest) (hstart : dropBlank cs = '\"' :: after) :
    ReadsValue (steps + 1) ('\x7b' :: cs) (.object ms) rest := by
  have hvalue : Reading.value (steps + 1) ('\x7b' :: cs) =
      (.object (members steps after).1 (members steps after).2.1, (members steps after).2.2) := by
    have hopen : dropBlank ('\x7b' :: cs) = '\x7b' :: cs := rfl
    rw [Reading.value]
    simp [hopen, hstart]
  rw [ReadsValue, hvalue, reading?]
  obtain ⟨hread, found, ending, hmembers⟩ | ⟨rs, hread, hmembers⟩ := elim_cases h <;>
    simp [hread, hmembers]

/-- The last item of a list, before its bracket. -/
theorem ReadsValue.lastItem {steps : Nat} {gap : List Char}
    (h : ReadsValue steps cs t (gap ++ ']' :: rest)) (hgap : Blank gap) :
    ReadsItems (steps + 1) cs [t] rest := by
  have hend : dropBlank (gap ++ ']' :: rest) = ']' :: rest := dropBlank_append hgap _
  rw [ReadsItems, readings?, readings?]
  obtain ⟨hread, r, hvalue⟩ | ⟨r, hread, hvalue⟩ := elim_cases h
  · simp [hread, items, hvalue]
  · simp [hread, items, hvalue, hend]

theorem ReadsValue.item {steps : Nat} {gap more after : List Char} {d : Char}
    (h : ReadsValue steps cs t (gap ++ ',' :: more)) (hgap : Blank gap)
    (hstart : dropBlank more = d :: after) (hd : d ≠ ']') (hmore : ReadsItems steps more ts rest) :
    ReadsItems (steps + 1) cs (t :: ts) rest := by
  have hcomma : dropBlank (gap ++ ',' :: more) = ',' :: more := dropBlank_append hgap _
  rw [ReadsItems, readings?]
  obtain ⟨hread, r, hvalue⟩ | ⟨r, hread, hvalue⟩ := elim_cases h
  · simp [hread, items, hvalue]
  · obtain ⟨hreads, found, ending, hitems⟩ | ⟨rs, hreads, hitems⟩ := elim_cases hmore <;>
      rw [← items_dropBlank, hstart] at hitems <;>
      simp [hread, hreads, items, hvalue, hcomma, hstart, hd, hitems]

theorem ReadsValue.lastMember {steps : Nat} {gap gap' after : List Char} {k : String}
    (h : ReadsValue steps after t (gap ++ '\x7d' :: rest)) (hgap : Blank gap)
    (hkey : readText [] cs = .ok (k, gap' ++ ':' :: after)) (hgap' : Blank gap') :
    ReadsMembers (steps + 1) cs [(k, t)] rest := by
  have hcolon : dropBlank (gap' ++ ':' :: after) = ':' :: after := dropBlank_append hgap' _
  have hend : dropBlank (gap ++ '\x7d' :: rest) = '\x7d' :: rest := dropBlank_append hgap _
  rw [ReadsMembers, memberReadings?, memberReadings?]
  obtain ⟨hread, r, hvalue⟩ | ⟨r, hread, hvalue⟩ := elim_cases h
  · simp [hread, members, hkey, hcolon, hvalue]
  · simp [hread, members, hkey, hcolon, hvalue, hend]

theorem ReadsValue.member {steps : Nat} {gap gap' after more next : List Char} {k : String}
    (h : ReadsValue steps after t (gap ++ ',' :: more)) (hgap : Blank gap)
    (hkey : readText [] cs = .ok (k, gap' ++ ':' :: after)) (hgap' : Blank gap')
    (hstart : dropBlank more = '\"' :: next) (hmore : ReadsMembers steps next ms rest) :
    ReadsMembers (steps + 1) cs ((k, t) :: ms) rest := by
  have hcolon : dropBlank (gap' ++ ':' :: after) = ':' :: after := dropBlank_append hgap' _
  have hcomma : dropBlank (gap ++ ',' :: more) = ',' :: more := dropBlank_append hgap _
  rw [ReadsMembers, memberReadings?]
  obtain ⟨hread, r, hvalue⟩ | ⟨r, hread, hvalue⟩ := elim_cases h
  · simp [hread, members, hkey, hcolon, hvalue]
  · obtain ⟨hreads, found, ending, hmembers⟩ | ⟨rs, hreads, hmembers⟩ := elim_cases hmore <;>
      simp [hread, hreads, members, hkey, hcolon, hvalue, hcomma, hstart, hmembers]

theorem readsValue_number {lexeme : List Char} (h : IsNumber lexeme) (hrest : Number.Stops rest)
    (steps : Nat) : ReadsValue (steps + 1) (lexeme ++ rest) (.number lexeme) rest := by
  -- Both signs leave the reading of the number's digits, which settles.
  have hsettled : ∀ o : Except Fault Number, Number.ofLexeme? lexeme = o.toOption →
      Reading.value (steps + 1) (lexeme ++ rest) = ofNumber (o.map (·, rest)) →
      ReadsValue (steps + 1) (lexeme ++ rest) (.number lexeme) rest := by
    intro o hlexeme hvalue
    rw [ReadsValue, reading?, hlexeme, hvalue]
    cases o with
    | ok n => rfl
    | error f => exact ⟨_, rfl⟩
  have hstops : Number.Stops [] := nofun
  cases h with
  | positive h =>
    obtain ⟨o, ho⟩ := Number.settles_read h true
    obtain ⟨d, tail, rfl, hd⟩ := Number.exists_digit h
    have hne : ∀ c : Char, c.isDigit = false → d ≠ c := fun c hc => Number.ne_of_isDigit hd hc
    have hread := ho [] hstops
    rw [List.append_nil] at hread
    refine hsettled o ?_ ?_
    · rw [Number.ofLexeme?, hread]
      · cases o <;> rfl
      · rintro cs ⟨⟩
        exact hne '-' rfl rfl
    · have hblank : isBlank d = false := by simp [isBlank, hne]
      have hread := ho rest hrest
      rw [List.cons_append] at hread ⊢
      simp [Reading.value, dropBlank, hblank, hne, hd, hread]
  | @negative cs h =>
    obtain ⟨o, ho⟩ := Number.settles_read h false
    have hread := ho [] hstops
    rw [List.append_nil] at hread
    refine hsettled o ?_ ?_
    · rw [Number.ofLexeme?, hread]
      cases o <;> rfl
    · simp [Reading.value, dropBlank, isBlank, ho rest hrest]

end Reading

/-! ## What the grammar derives -/

namespace SpellsText

theorem length_lt {cs s rest : List Char} (h : SpellsText cs s rest) :
    rest.length < cs.length := by
  induction h with
  | close rest => exact Nat.lt_succ_self _
  | plain _ _ _ _ ih => exact Nat.lt_succ_of_lt ih
  | escape _ _ ih => exact Nat.lt_add_right 2 ih
  | unit _ _ _ _ ih =>
    simp only [List.length_cons, List.length_append]
    omega
  | pair _ _ _ _ _ ih =>
    simp only [List.length_cons, List.length_append]
    omega

end SpellsText

namespace Spells

variable {cs rest : List Char} {t : Tree} {ts : List Tree} {ms : List (String × Tree)}

theorem length_lt {p : Phrase} (h : Spells cs p rest) : rest.length < cs.length := by
  induction h with
  | null | yes | no | emptyList | emptyObject =>
    simp only [List.length_cons, List.length_append]
    omega
  | number h rest =>
    obtain ⟨d, tail, rfl, -⟩ := Number.exists_start h
    simp only [List.length_cons, List.length_append]
    omega
  | text h => exact Nat.lt_succ_of_lt h.length_lt
  | list _ ih | object _ ih =>
    simp only [List.length_cons] at ih ⊢
    omega
  | padded _ _ _ ih =>
    simp only [List.length_append] at ih ⊢
    omega
  | lastItem _ ih => exact ih
  | item _ _ ih ih' =>
    simp only [List.length_cons] at ih
    omega
  | lastMember _ hkey _ _ ih =>
    have hkey := hkey.length_lt
    simp only [List.length_cons, List.length_append] at hkey ⊢
    omega
  | member _ hkey _ _ _ ih ih' =>
    have hkey := hkey.length_lt
    simp only [List.length_cons, List.length_append] at hkey ih ⊢
    omega

/-- A value begins with a character of its own, which closes no list. -/
theorem exists_start (h : Spells cs (.value t) rest) :
    ∃ c tail, cs = c :: tail ∧ Reading.isBlank c = false ∧ c ≠ ']' := by
  cases h with
  | number h =>
    obtain ⟨d, tail, rfl, rfl | hd⟩ := Number.exists_start h
    · exact ⟨_, _, rfl, rfl, by decide⟩
    · have hne : ∀ c : Char, c.isDigit = false → d ≠ c := fun c hc => Number.ne_of_isDigit hd hc
      exact ⟨d, _, rfl, by simp [Reading.isBlank, hne], hne ']' rfl⟩
  | null | yes | no | text | emptyList | list | emptyObject | object =>
    exact ⟨_, _, rfl, rfl, by decide⟩

theorem dropBlank_padded (h : Spells cs (.padded t) rest) :
    ∃ c tail, Reading.dropBlank cs = c :: tail ∧ c ≠ ']' := by
  cases h with
  | padded hgap _ h =>
    obtain ⟨c, tail, rfl, hblank, hc⟩ := exists_start h
    refine ⟨c, tail, ?_, hc⟩
    rw [Reading.dropBlank_append hgap]
    simp [Reading.dropBlank, hblank]

theorem dropBlank_items (h : Spells cs (.items ts) rest) :
    ∃ c tail, Reading.dropBlank cs = c :: tail ∧ c ≠ ']' := by
  cases h with
  | lastItem h => exact dropBlank_padded h
  | item h => exact dropBlank_padded h

theorem dropBlank_members (h : Spells cs (.members ms) rest) :
    ∃ tail, Reading.dropBlank cs = '\"' :: tail ∧ tail.length < cs.length := by
  have hdrop : ∀ {gap tail : List Char}, Blank gap →
      Reading.dropBlank (gap ++ '\"' :: tail) = '\"' :: tail ∧
        tail.length < (gap ++ '\"' :: tail).length := fun hgap =>
    ⟨Reading.dropBlank_append hgap _, by simp only [List.length_append, List.length_cons]; omega⟩
  cases h with
  | lastMember hgap => exact ⟨_, hdrop hgap⟩
  | member hgap => exact ⟨_, hdrop hgap⟩

end Spells

namespace Reading

/-- What is read of characters that begin with a phrase, in enough steps. -/
def Reads (cs : List Char) : Phrase → List Char → Prop
  | .value t, rest => Number.Stops rest → ∀ steps, 2 * cs.length ≤ steps →
    ReadsValue steps cs t rest
  | .padded t, rest => Number.Stops rest → ∀ steps, 2 * cs.length ≤ steps →
    ∃ gap, Blank gap ∧ ReadsValue steps cs t (gap ++ rest)
  | .items ts, rest => ∀ more, rest = ']' :: more → ∀ steps, 2 * cs.length < steps →
    ReadsItems steps cs ts more
  | .members ms, rest => ∀ more, rest = '\x7d' :: more → ∀ tail, dropBlank cs = '\"' :: tail →
    ∀ steps, 2 * tail.length < steps → ReadsMembers steps tail ms more

/-- **What the grammar derives is read as its tree.** The induction is on the derivation; one
step is left over at each value, for its list or object. -/
theorem reads_of_spells {cs rest : List Char} {p : Phrase} (h : Spells cs p rest) :
    Reads cs p rest := by
  -- What follows a value within a list or an object does not go on with a number.
  have hstops : ∀ {c : Char} (rest : List Char), c = ',' ∨ c = ']' ∨ c = '\x7d' →
      Number.Stops (c :: rest) := by
    rintro c rest (rfl | rfl | rfl) d hd <;> cases hd <;> decide
  induction h with
  | null | yes | no =>
    intro _ steps hsteps
    obtain ⟨steps, rfl⟩ : ∃ k, steps = k + 1 := ⟨steps - 1, by simp at hsteps; omega⟩
    rfl
  | number h rest =>
    intro hrest steps hsteps
    obtain ⟨steps, rfl⟩ : ∃ k, steps = k + 1 := by
      obtain ⟨d, tail, rfl, -⟩ := Number.exists_start h
      exact ⟨steps - 1, by simp at hsteps; omega⟩
    exact readsValue_number h hrest steps
  | text h =>
    intro _ steps hsteps
    obtain ⟨steps, rfl⟩ : ∃ k, steps = k + 1 := ⟨steps - 1, by simp at hsteps; omega⟩
    simp [ReadsValue, Tree.reading?, Reading.value, dropBlank, isBlank, readText_of_spells h,
      ofTextLiteral]
  | emptyList hgap rest =>
    intro _ steps hsteps
    obtain ⟨steps, rfl⟩ : ∃ k, steps = k + 1 := ⟨steps - 1, by simp at hsteps; omega⟩
    have hopen : ∀ cs, dropBlank ('[' :: cs) = '[' :: cs := fun _ => rfl
    have hclose : ∀ cs, dropBlank (']' :: cs) = ']' :: cs := fun _ => rfl
    simp [ReadsValue, Tree.reading?, Tree.readings?, Reading.value, hopen, hclose,
      dropBlank_append hgap]
  | emptyObject hgap rest =>
    intro _ steps hsteps
    obtain ⟨steps, rfl⟩ : ∃ k, steps = k + 1 := ⟨steps - 1, by simp at hsteps; omega⟩
    have hopen : ∀ cs, dropBlank ('\x7b' :: cs) = '\x7b' :: cs := fun _ => rfl
    have hclose : ∀ cs, dropBlank ('\x7d' :: cs) = '\x7d' :: cs := fun _ => rfl
    simp [ReadsValue, Tree.reading?, Tree.memberReadings?, Reading.value, hopen, hclose,
      dropBlank_append hgap]
  | list h ih =>
    intro _ steps hsteps
    simp only [List.length_cons] at hsteps
    obtain ⟨steps, rfl⟩ : ∃ k, steps = k + 1 := ⟨steps - 1, by omega⟩
    obtain ⟨c, tail, hstart, hc⟩ := Spells.dropBlank_items h
    exact (ih _ rfl steps (by omega)).value hstart hc
  | object h ih =>
    intro _ steps hsteps
    simp only [List.length_cons] at hsteps
    obtain ⟨steps, rfl⟩ : ∃ k, steps = k + 1 := ⟨steps - 1, by omega⟩
    obtain ⟨tail, hstart, htail⟩ := Spells.dropBlank_members h
    exact (ih _ rfl tail hstart steps (by omega)).value hstart
  | @padded gap gap' cs rest t hgap hgap' h ih =>
    intro hrest steps hsteps
    simp only [List.length_append] at hsteps
    have hread := ih (stops_append hgap' hrest) steps (by omega)
    refine ⟨gap', hgap', ?_⟩
    rwa [ReadsValue, value_append_blank hgap]
  | lastItem h ih =>
    rintro more rfl steps hsteps
    obtain ⟨steps, rfl⟩ : ∃ k, steps = k + 1 := ⟨steps - 1, by omega⟩
    obtain ⟨gap, hgap, hread⟩ := ih (hstops more (by simp)) steps (by omega)
    exact hread.lastItem hgap
  | @item cs next rest t ts h hmore ih ih' =>
    rintro more rfl steps hsteps
    obtain ⟨steps, rfl⟩ : ∃ k, steps = k + 1 := ⟨steps - 1, by omega⟩
    have hlength := h.length_lt
    rw [List.length_cons] at hlength
    obtain ⟨gap, hgap, hread⟩ := ih (hstops next (by simp)) steps (by omega)
    obtain ⟨c, tail, hstart, hc⟩ := Spells.dropBlank_items hmore
    exact hread.item hgap hstart hc (ih' more rfl steps (by omega))
  | @lastMember gap gap' cs k after rest t hgap hkey hgap' h ih =>
    rintro more rfl tail htail steps hsteps
    obtain ⟨steps, rfl⟩ : ∃ k, steps = k + 1 := ⟨steps - 1, by omega⟩
    rw [dropBlank_append hgap] at htail
    obtain rfl : cs = tail := by simpa [dropBlank, isBlank] using htail
    have hlength := hkey.length_lt
    simp only [List.length_append, List.length_cons] at hlength
    obtain ⟨gap'', hgap'', hread⟩ := ih (hstops more (by simp)) steps (by omega)
    exact hread.lastMember hgap'' (readText_of_spells hkey []) hgap'
  | @member gap gap' cs k after next rest t ms hgap hkey hgap' h hmore ih ih' =>
    rintro more rfl tail htail steps hsteps
    obtain ⟨steps, rfl⟩ : ∃ k, steps = k + 1 := ⟨steps - 1, by omega⟩
    rw [dropBlank_append hgap] at htail
    obtain rfl : cs = tail := by simpa [dropBlank, isBlank] using htail
    have hlength := hkey.length_lt
    have hlength' := h.length_lt
    simp only [List.length_append, List.length_cons] at hlength hlength'
    obtain ⟨gap'', hgap'', hread⟩ := ih (hstops next (by simp)) steps (by omega)
    obtain ⟨tail, hstart, htail⟩ := Spells.dropBlank_members hmore
    exact hread.member hgap'' (readText_of_spells hkey []) hgap' hstart
      (ih' more rfl tail hstart steps (by omega))

end Reading

end SchemaTypes.Json

namespace SchemaTypes.Document

open Json (Denotes Tree Reading)

/-- What is taken from a tree. -/
def taken {α : Type} (take : Taker α) (t : Tree) : Option α :=
  t.reading?.bind fun r => (take r).toOption

/-- **Only what a text denotes decides on the document that is read of it.** -/
theorem read?_eq_ok_iff {text : String} {t : Tree} (h : Denotes text t) (d : Document) :
    read? text = .ok d ↔ taken documentShape.take t = some d := by
  obtain ⟨gap, hgap, hread⟩ := Reading.reads_of_spells h (nofun : Json.Number.Stops [])
    (2 * text.toList.length + 1) (Nat.le_succ _)
  rw [List.append_nil] at hread
  rw [taken]
  obtain ⟨ht, r, hvalue⟩ | ⟨r, ht, hvalue⟩ := Reading.elim_cases hread
  · -- What follows is no document, whatever is taken from what was read.
    have htext : Reading.ofText text = (r, none) := hvalue
    have hread : read? text = documentShape.take r >>= fun _ =>
        throw (.malformed .trailingCharacters) := by
      simp [read?, htext, Reading.isWhole]
    rw [hread, ht]
    cases documentShape.take r <;> simp [bind, Except.bind, throw, throwThe, MonadExceptOf.throw]
  · have htext : Reading.ofText text = (r, some gap) := hvalue
    have hwhole : gap.all Reading.isBlank := List.all_eq_true.2 hgap
    have hread : read? text = documentShape.take r := by
      simp [read?, htext, Reading.isWhole, hwhole]
    rw [hread, ht, Option.bind_some]
    cases documentShape.take r <;> simp [Except.toOption]

end SchemaTypes.Document
