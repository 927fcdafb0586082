/-
Printed documents read back.

A document's printed form is read up to its end, whatever follows, as long as
that does not go on with a number: white space and separators between values
are passed over, every text is read with its escapes undone, and every number
of at most 64 bits is read as it is (`value_layout`). The steps that a reading
may take are bounded by twice the number of characters, which suffices since a
value has at least one character and a list or object two more than what is in
it.
-/
import SchemaTypes.Json.Reading
import SchemaTypes.Json.Value

namespace SchemaTypes.Json

/-! ## Texts -/

theorem readText_quote (before rest : List Char) :
    readText before ('\"' :: rest) = .ok (String.ofList before.reverse, rest) := by
  rw [readText]

theorem readText_plain {c : Char} (before rest : List Char) (hquote : c ≠ '\"')
    (hescape : c ≠ '\\') (hcontrol : ¬c.toNat < 0x20) :
    readText before (c :: rest) = readText (c :: before) rest := by
  rw [readText]
  · rw [if_neg hcontrol]
  · exact hquote
  · exact hescape

theorem readText_escape {c : Char} {cs rest : List Char} (before : List Char)
    (h : unescape cs = .ok (c, rest)) :
    readText before ('\\' :: cs) = readText (c :: before) rest := by
  rw [readText]
  split
  · next f hf => rw [h] at hf; cases hf
  · next c' rest' hok =>
    rw [h] at hok
    cases hok
    rfl

theorem hexValue?_digitChar : ∀ d < 16, hexValue? (Nat.digitChar d) = some d := by
  decide

theorem unescape_controlEscape {c : Char} (hc : c.toNat < 0x20) (rest : List Char) :
    unescape ((controlEscape c).tail ++ rest) = .ok (c, rest) := by
  have hhigh := hexValue?_digitChar (c.toNat / 16) (by omega)
  have hlow := hexValue?_digitChar (c.toNat % 16) (by omega)
  have hzero : hexValue? '0' = some 0 := by decide
  have hunit : c.toNat / 16 * 16 + c.toNat % 16 = c.toNat := by omega
  have htrailing : isTrailing c.toNat = false := by
    simp only [isTrailing, Bool.and_eq_false_iff, decide_eq_false_iff_not]
    omega
  have hleading : isLeading c.toNat = false := by
    simp only [isLeading, Bool.and_eq_false_iff, decide_eq_false_iff_not]
    omega
  simp [controlEscape, unescape, codeUnits, fourHex, hzero, hhigh, hlow, hunit, htrailing,
    hleading, bind, Except.bind, pure, Except.pure]

theorem readText_escaped (c : Char) (before rest : List Char) :
    readText before (escaped c ++ rest) = readText (c :: before) rest := by
  unfold escaped
  split
  · next h => subst h; exact readText_escape before rfl
  split
  · next h => subst h; exact readText_escape before rfl
  split
  · next h => subst h; exact readText_escape before rfl
  split
  · next h => subst h; exact readText_escape before rfl
  split
  · next h => subst h; exact readText_escape before rfl
  split
  · next h => subst h; exact readText_escape before rfl
  split
  · next h => subst h; exact readText_escape before rfl
  split
  · next h => exact readText_escape before (unescape_controlEscape h rest)
  · next hquote hescape _ _ _ _ _ hcontrol => exact readText_plain before rest hquote hescape hcontrol

theorem readText_flatMap_escaped (cs before rest : List Char) :
    readText before (cs.flatMap escaped ++ '\"' :: rest) =
      .ok (String.ofList (before.reverse ++ cs), rest) := by
  induction cs generalizing before with
  | nil => simp [readText_quote]
  | cons c cs ih => simp [readText_escaped, ih]

theorem readText_literal (s : String) (rest : List Char) :
    readText [] (s.toList.flatMap escaped ++ '\"' :: rest) = .ok (s, rest) := by
  rw [readText_flatMap_escaped]
  simp

/-! ## Numbers -/

namespace Number

/-- What follows a number does not go on with it. -/
def Stops (rest : List Char) : Prop :=
  ∀ c ∈ rest.head?, c.isDigit = false ∧ c ≠ '.' ∧ isExponentMark c = false

theorem Stops.startsDigit {rest : List Char} (h : Stops rest) : startsDigit rest = false := by
  cases rest with
  | nil => rfl
  | cons c cs => simpa [Number.startsDigit] using (h c rfl).1

theorem le_ofDigitChars (ds : List Char) (n : Nat) : n ≤ Nat.ofDigitChars 10 ds n := by
  induction ds generalizing n with
  | nil => simp
  | cons d ds ih =>
    have := ih (10 * n + (d.toNat - '0'.toNat))
    rw [Nat.ofDigitChars_cons]
    omega

/-- Digits are taken all at once if the number they make keeps to the limit. -/
theorem takeDigits_append {limit : Nat} {ds rest : List Char} (hds : ∀ d ∈ ds, d.isDigit)
    (hrest : startsDigit rest = false) : ∀ {n : Nat}, Nat.ofDigitChars 10 ds n ≤ limit →
      takeDigits limit n (ds ++ rest) = (Nat.ofDigitChars 10 ds n, ds.length, rest) := by
  induction ds with
  | nil =>
    intro n _
    cases rest with
    | nil => rfl
    | cons c cs => simp_all [takeDigits, startsDigit]
  | cons d ds ih =>
    intro n hn
    have hd : d.isDigit := hds d List.mem_cons_self
    rw [Nat.ofDigitChars_cons] at hn
    have hle := le_ofDigitChars ds (10 * n + (d.toNat - '0'.toNat))
    have hvalue : n * 10 + digitValue d = 10 * n + (d.toNat - '0'.toNat) := by
      simp only [digitValue, Char.reduceToNat]
      omega
    have hstep : n * 10 + digitValue d ≤ limit := by omega
    rw [List.cons_append, takeDigits, if_pos ⟨hd, hstep⟩, hvalue,
      ih (fun e he => hds e (List.mem_cons_of_mem _ he)) hn, Nat.ofDigitChars_cons]
    simp

theorem exists_toDigits_cons (n : Nat) : ∃ d ds, Nat.toDigits 10 n = d :: ds ∧ d.isDigit := by
  obtain ⟨d, ds, hcons⟩ := List.exists_cons_of_ne_nil (Nat.toDigits_ne_nil (n := n) (b := 10))
  refine ⟨d, ds, hcons, Nat.isDigit_of_mem_toDigits (b := 10) (n := n) (by decide) (by decide) ?_⟩
  rw [hcons]
  exact List.mem_cons_self

theorem ne_of_isDigit {d c : Char} (hd : d.isDigit) (hc : c.isDigit = false) : d ≠ c := by
  intro h
  rw [h, hc] at hd
  cases hd

/-- No number but zero begins with a zero. -/
theorem head_toDigits {n : Nat} (hn : n ≠ 0) : (Nat.toDigits 10 n).head? ≠ some '0' := by
  induction n using Nat.strongRecOn with
  | _ n ih =>
    rw [Nat.toDigits_eq_if (by decide)]
    split
    · next hlt =>
      have hdigit : ∀ m < 10, m ≠ 0 → m.digitChar ≠ '0' := by decide
      simpa using hdigit n hlt hn
    · next hge =>
      have := ih (n / 10) (by omega) (by omega)
      obtain ⟨d, ds, hcons, -⟩ := exists_toDigits_cons (n / 10)
      rw [hcons] at this ⊢
      exact this

theorem readAfterWhole_stops {n : Nat} {rest : List Char} (h : Stops rest) :
    readAfterWhole true n 0 true rest = .ok (.natural n, rest) := by
  unfold readAfterWhole
  split
  · next rest => exact absurd rfl (h '.' rfl).2.1
  · have hmark : rest.head?.any isExponentMark = false := by
      cases rest with
      | nil => rfl
      | cons c cs => simpa using (h c rfl).2.2
    simp [hmark, ofInteger]

/-- A natural number of at most 64 bits is read as it was written. -/
theorem read_toDigits {n : Nat} (hn : n ≤ largestWord) {rest : List Char} (h : Stops rest) :
    read true (Nat.toDigits 10 n ++ rest) = .ok (.natural n, rest) := by
  have hdigits : ∀ d ∈ Nat.toDigits 10 n, d.isDigit :=
    fun d hd => Nat.isDigit_of_mem_toDigits (by decide) (by decide) hd
  have hnumber : Nat.ofDigitChars 10 (Nat.toDigits 10 n) 0 = n := Nat.ofDigitChars_ten_toDigits
  have hfits : Nat.ofDigitChars 10 (Nat.toDigits 10 n) 0 ≤ largestWord := by rwa [hnumber]
  have htake := takeDigits_append hdigits h.startsDigit hfits
  have hdrop : dropDigits rest = rest := by
    cases rest with
    | nil => rfl
    | cons c cs => simp [dropDigits, (h c rfl).1]
  have hleft : rest.takeWhile Char.isDigit = [] := by
    cases rest with
    | nil => rfl
    | cons c cs => simp [(h c rfl).1]
  by_cases hzero : n = 0
  · subst hzero
    simp only [Nat.toDigits_zero, List.singleton_append, read, h.startsDigit]
    exact readAfterWhole_stops h
  · have hhead := head_toDigits hzero
    obtain ⟨d, ds, hcons, hd⟩ := exists_toDigits_cons n
    rw [hcons] at htake hhead
    rw [hcons, List.cons_append, read]
    · rw [List.cons_append] at htake
      simp only [hd, htake, hleft, hdrop, ← hcons, hnumber, Bool.not_true, Bool.false_eq_true,
        if_false, List.length_nil, List.isEmpty_nil, Int.ofNat_zero]
      exact readAfterWhole_stops h
    · simpa using hhead

end Number

/-! ## Documents -/

mutual

/-- A document as a reading without a fault. -/
def Reading.ofValue : Value → Reading
  | .null => .null
  | .bool b => .bool b
  | .number n => .number (.natural n)
  | .text s => .text s
  | .list vs => .list (ofValues vs) .closed
  | .object ms => .object (ofMembers ms) .closed

def Reading.ofValues : List Value → List Reading
  | [] => []
  | v :: vs => ofValue v :: ofValues vs

def Reading.ofMembers : List (String × Value) → List (String × Reading)
  | [] => []
  | (k, v) :: ms => (k, ofValue v) :: ofMembers ms

end

mutual

/-- All numbers of a document have at most 64 bits, like those that are read as they are. -/
def Value.Narrow : Value → Prop
  | .number n => n ≤ Number.largestWord
  | .list vs => NarrowItems vs
  | .object ms => NarrowMembers ms
  | _ => True

def Value.NarrowItems : List Value → Prop
  | [] => True
  | v :: vs => Narrow v ∧ NarrowItems vs

def Value.NarrowMembers : List (String × Value) → Prop
  | [] => True
  | (_, v) :: ms => Narrow v ∧ NarrowMembers ms

end

theorem Reading.ofValues_eq_map (vs : List Value) : ofValues vs = vs.map ofValue := by
  induction vs with
  | nil => rfl
  | cons v vs ih => simp [ofValues, ih]

theorem Value.narrowItems_iff {vs : List Value} : NarrowItems vs ↔ ∀ v ∈ vs, v.Narrow := by
  induction vs with
  | nil => simp [NarrowItems]
  | cons v vs ih => simp [NarrowItems, ih]

namespace Reading

theorem dropBlank_lineStart (depth : Nat) (cs : List Char) :
    dropBlank (lineStart depth ++ cs) = dropBlank cs := by
  have hspaces : ∀ n, dropBlank (List.replicate n ' ' ++ cs) = dropBlank cs := by
    intro n
    induction n with
    | zero => rfl
    | succ n ih => simpa [List.replicate_succ, dropBlank, isBlank] using ih
  simpa [lineStart, dropBlank, isBlank] using hspaces (2 * depth)

/-- A document begins with a character that is neither white space nor the end of a list. -/
theorem exists_layout_cons (depth : Nat) (v : Value) :
    ∃ c cs, layout depth v = c :: cs ∧ isBlank c = false ∧ c ≠ ']' := by
  cases v with
  | null => exact ⟨_, _, rfl, by decide, by decide⟩
  | bool b => cases b <;> exact ⟨_, _, rfl, by decide, by decide⟩
  | number n =>
    obtain ⟨d, ds, hcons, hd⟩ := Number.exists_toDigits_cons n
    refine ⟨d, ds, by simp [layout, hcons], ?_, Number.ne_of_isDigit hd (by decide)⟩
    have hne : ∀ c : Char, c.isDigit = false → d ≠ c := fun c hc => Number.ne_of_isDigit hd hc
    simp [isBlank, hne]
  | text s => exact ⟨_, _, by rw [layout, textLiteral], by decide, by decide⟩
  | list vs =>
    cases vs with
    | nil => exact ⟨_, _, by rw [layout], by decide, by decide⟩
    | cons v vs => exact ⟨_, _, by rw [layout], by decide, by decide⟩
  | object ms =>
    cases ms with
    | nil => exact ⟨_, _, by rw [layout], by decide, by decide⟩
    | cons m ms => exact ⟨_, _, by rw [layout], by decide, by decide⟩

theorem dropBlank_layout (depth : Nat) (v : Value) (rest : List Char) :
    dropBlank (layout depth v ++ rest) = layout depth v ++ rest := by
  obtain ⟨c, cs, hcons, hblank, -⟩ := exists_layout_cons depth v
  simp [hcons, dropBlank, hblank]

theorem exists_dropBlank_item (depth : Nat) (v : Value) (rest : List Char) :
    ∃ c cs, c ≠ ']' ∧ dropBlank (lineStart depth ++ (layout depth v ++ rest)) = c :: cs ∧
      layout depth v ++ rest = c :: cs := by
  obtain ⟨c, cs, hcons, -, hc⟩ := exists_layout_cons depth v
  refine ⟨c, cs ++ rest, hc, ?_, by rw [hcons, List.cons_append]⟩
  rw [dropBlank_lineStart, dropBlank_layout, hcons, List.cons_append]

theorem dropBlank_key (depth : Nat) (k : String) (rest : List Char) :
    dropBlank (lineStart depth ++ (textLiteral k ++ rest)) =
      '\"' :: (k.toList.flatMap escaped ++ '\"' :: rest) := by
  rw [dropBlank_lineStart]
  simp [textLiteral, dropBlank, isBlank]

theorem value_blank {c : Char} (hc : isBlank c) (steps : Nat) (cs : List Char) :
    value steps (c :: cs) = value steps cs := by
  cases steps with
  | zero => rfl
  | succ steps => simp [value, dropBlank, hc]

/-- What follows an item goes on with no number. -/
theorem stops_layoutItems (depth : Nat) (vs : List Value) (rest : List Char) :
    Number.Stops (layoutItems depth vs ++ rest) := by
  intro c hc
  cases vs <;> cases hc <;> decide

theorem stops_layoutMembers (depth : Nat) (ms : List (String × Value)) (rest : List Char) :
    Number.Stops (layoutMembers depth ms ++ rest) := by
  intro c hc
  rcases ms with _ | ⟨⟨k, v⟩, ms⟩ <;> cases hc <;> decide

theorem value_number {n : Nat} (hn : n ≤ Number.largestWord) {rest : List Char}
    (hrest : Number.Stops rest) (steps : Nat) :
    value (steps + 1) (Nat.toDigits 10 n ++ rest) = (.number (.natural n), some rest) := by
  have hread := Number.read_toDigits hn hrest
  obtain ⟨d, ds, hcons, hd⟩ := Number.exists_toDigits_cons n
  rw [hcons, List.cons_append] at hread ⊢
  have hne : ∀ c : Char, c.isDigit = false → d ≠ c := fun c hc => Number.ne_of_isDigit hd hc
  have hblank : isBlank d = false := by simp [isBlank, hne]
  simp [value, dropBlank, hblank, hne, hd, hread, ofNumber]

theorem value_list {steps : Nat} {cs after : List Char} {d : Char} {found : List Reading}
    {rest : Rest} (hcs : dropBlank cs = d :: after) (hd : d ≠ ']')
    (hitems : items steps (d :: after) = (found, .closed, rest)) :
    value (steps + 1) ('[' :: cs) = (.list found .closed, rest) := by
  have hopen : dropBlank ('[' :: cs) = '[' :: cs := rfl
  rw [value]
  simp [hopen, hcs, hd, hitems]

theorem value_object {steps : Nat} {cs after : List Char} {found : List (String × Reading)}
    {rest : Rest} (hcs : dropBlank cs = '\"' :: after)
    (hmembers : members steps after = (found, .closed, rest)) :
    value (steps + 1) ('\x7b' :: cs) = (.object found .closed, rest) := by
  have hopen : dropBlank ('\x7b' :: cs) = '\x7b' :: cs := rfl
  rw [value]
  simp [hopen, hcs, hmembers]

mutual

/-- **A printed document is read as it is**, up to its end, if what follows goes on with no
number. The induction is on the document; the lists and objects in it are read item by item. -/
theorem value_layout : ∀ (v : Value) (depth steps : Nat) {rest : List Char}, v.Narrow →
    Number.Stops rest → 2 * (layout depth v).length ≤ steps →
    value steps (layout depth v ++ rest) = (ofValue v, some rest)
  | v, depth, 0, rest, _, _, hsteps => by
    obtain ⟨c, cs, hcons, -⟩ := exists_layout_cons depth v
    simp [hcons] at hsteps
  | .null, depth, steps + 1, rest, _, _, _ => rfl
  | .bool true, depth, steps + 1, rest, _, _, _ => rfl
  | .bool false, depth, steps + 1, rest, _, _, _ => rfl
  | .number n, depth, steps + 1, rest, hv, hrest, _ => by
    have hn : n ≤ Number.largestWord := by simpa [Value.Narrow] using hv
    simpa [layout, ofValue] using value_number hn hrest steps
  | .text s, depth, steps + 1, rest, _, _, _ => by
    simp [layout, textLiteral, value, dropBlank, isBlank, readText_literal, ofTextLiteral, ofValue]
  | .list [], depth, steps + 1, rest, _, _, _ => by
    simp [layout, value, dropBlank, isBlank, ofValue, ofValues]
  | .list (v :: vs), depth, steps + 1, rest, hv, _, hsteps => by
    obtain ⟨hv, hvs⟩ : v.Narrow ∧ Value.NarrowItems vs := by
      simpa [Value.Narrow, Value.NarrowItems] using hv
    simp only [layout, List.length_cons, List.length_append] at hsteps
    obtain ⟨steps, rfl⟩ : ∃ k, steps = k + 1 := ⟨steps - 1, by omega⟩
    have hfirst := value_layout v (depth + 1) steps hv
      (stops_layoutItems depth vs rest) (by omega)
    have hitems := items_layout vs depth hvs hfirst (by omega)
    obtain ⟨c, cs, hc, hstart, hcons⟩ :=
      exists_dropBlank_item (depth + 1) v (layoutItems depth vs ++ rest)
    rw [hcons] at hitems
    simpa [layout, ofValue, ofValues] using value_list hstart hc hitems
  | .object [], depth, steps + 1, rest, _, _, _ => by
    simp [layout, value, dropBlank, isBlank, ofValue, ofMembers]
  | .object ((k, v) :: ms), depth, steps + 1, rest, hv, _, hsteps => by
    obtain ⟨hv, hms⟩ : v.Narrow ∧ Value.NarrowMembers ms := by
      simpa [Value.Narrow, Value.NarrowMembers] using hv
    simp only [layout, textLiteral, List.length_cons, List.length_append] at hsteps
    obtain ⟨steps, rfl⟩ : ∃ k, steps = k + 1 := ⟨steps - 1, by omega⟩
    have hfirst := value_layout v (depth + 1) steps hv
      (stops_layoutMembers depth ms rest) (by omega)
    have hmembers := members_layout ms depth hms k hfirst (by omega)
    have hstart := dropBlank_key (depth + 1) k
      (':' :: ' ' :: (layout (depth + 1) v ++ (layoutMembers depth ms ++ rest)))
    simpa [layout, ofValue, ofMembers] using value_object hstart hmembers

theorem items_layout : ∀ (vs : List Value) (depth : Nat) {steps : Nat} {cs rest : List Char}
    {item : Reading}, Value.NarrowItems vs →
    value steps cs = (item, some (layoutItems depth vs ++ rest)) →
    2 * (layoutItems depth vs).length ≤ steps →
    items (steps + 1) cs = (item :: ofValues vs, .closed, some rest)
  | [], depth, steps, cs, rest, item, _, hitem, _ => by
    have hend : dropBlank (layoutItems depth [] ++ rest) = ']' :: rest := by
      rw [layoutItems, List.append_assoc, dropBlank_lineStart]
      rfl
    simp [items, hitem, hend, ofValues]
  | v :: vs, depth, steps, cs, rest, item, hvs, hitem, hsteps => by
    obtain ⟨hv, hvs⟩ : v.Narrow ∧ Value.NarrowItems vs := by simpa [Value.NarrowItems] using hvs
    simp only [layoutItems, List.length_cons, List.length_append] at hsteps
    obtain ⟨steps, rfl⟩ : ∃ k, steps = k + 1 := ⟨steps - 1, by omega⟩
    have hnext := value_layout v (depth + 1) steps hv
      (stops_layoutItems depth vs rest) (by omega)
    have hitems := items_layout vs depth hvs hnext (by omega)
    obtain ⟨c, after, hc, hstart, hcons⟩ :=
      exists_dropBlank_item (depth + 1) v (layoutItems depth vs ++ rest)
    have hcomma : dropBlank (layoutItems depth (v :: vs) ++ rest) = ',' :: (lineStart (depth + 1) ++
        (layout (depth + 1) v ++ (layoutItems depth vs ++ rest))) := by
      simp [layoutItems, dropBlank, isBlank]
    rw [hcons] at hitems
    rw [items, hitem]
    simp [hcomma, hstart, hc, hitems, ofValues]

/-- The members after one that has been read, from after the opening quote of its key on. -/
theorem members_layout : ∀ (ms : List (String × Value)) (depth : Nat) {steps : Nat}
    {cs rest : List Char} {item : Reading}, Value.NarrowMembers ms → ∀ k : String,
    value steps cs = (item, some (layoutMembers depth ms ++ rest)) →
    2 * (layoutMembers depth ms).length ≤ steps →
    members (steps + 1) (k.toList.flatMap escaped ++ '\"' :: ':' :: ' ' :: cs) =
      ((k, item) :: ofMembers ms, .closed, some rest)
  | [], depth, steps, cs, rest, item, _, k, hitem, _ => by
    have hend : dropBlank (layoutMembers depth [] ++ rest) = '\x7d' :: rest := by
      rw [layoutMembers, List.append_assoc, dropBlank_lineStart]
      rfl
    have hcolon : dropBlank (':' :: ' ' :: cs) = ':' :: ' ' :: cs := rfl
    rw [members, readText_literal]
    simp [hcolon, value_blank, isBlank, hitem, hend, ofMembers]
  | (l, v) :: ms, depth, steps, cs, rest, item, hms, k, hitem, hsteps => by
    obtain ⟨hv, hms⟩ : v.Narrow ∧ Value.NarrowMembers ms := by
      simpa [Value.NarrowMembers] using hms
    simp only [layoutMembers, textLiteral, List.length_cons, List.length_append] at hsteps
    obtain ⟨steps, rfl⟩ : ∃ k, steps = k + 1 := ⟨steps - 1, by omega⟩
    have hnext := value_layout v (depth + 1) steps hv
      (stops_layoutMembers depth ms rest) (by omega)
    have hmembers := members_layout ms depth hms l hnext (by omega)
    have hcolon : dropBlank (':' :: ' ' :: cs) = ':' :: ' ' :: cs := rfl
    have hcomma : dropBlank (layoutMembers depth ((l, v) :: ms) ++ rest) =
        ',' :: (lineStart (depth + 1) ++ (textLiteral l ++ (':' :: ' ' ::
          (layout (depth + 1) v ++ (layoutMembers depth ms ++ rest))))) := by
      simp [layoutMembers, dropBlank, isBlank]
    have hstart := dropBlank_key (depth + 1) l
      (':' :: ' ' :: (layout (depth + 1) v ++ (layoutMembers depth ms ++ rest)))
    rw [members, readText_literal]
    simp [hcolon, value_blank, isBlank, hitem, hcomma, hstart, hmembers, ofMembers]

end

/-- The printed form of a document reads as the document, and what follows it is left. -/
theorem ofText_pretty {v : Value} (hv : v.Narrow) {after : String}
    (hafter : Number.Stops after.toList) :
    ofText (v.pretty ++ after) = (ofValue v, some after.toList) := by
  have htext : (v.pretty ++ after).toList = layout 0 v ++ after.toList := by simp [Value.pretty]
  rw [ofText, htext]
  refine value_layout v 0 _ hv hafter ?_
  rw [List.length_append]
  omega

/-- The first member of an object with a key. -/
def member? (key : String) : Reading → Option Reading
  | .object members .closed => members.lookup key
  | _ => none

end Reading

end SchemaTypes.Json
