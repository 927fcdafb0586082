/-
Numbers and what follows them. Every part of a number is read the same way
whatever follows, as long as that does not go on with the number (`Stops`). So
the reading of a number is settled by its own characters (`settles_read`), and
is that of the number alone (`ofLexeme?`).
-/
import SchemaTypes.Proofs.JsonGrammar
import SchemaTypes.Proofs.PrintedJson

namespace SchemaTypes.Json

namespace Number

/-- A part of a number is read the same way whatever follows that does not go on with it. -/
def Settles (f : List Char → Except Fault (Number × List Char)) (cs : List Char) : Prop :=
  ∃ o : Except Fault Number, ∀ rest, Stops rest → f (cs ++ rest) = o.map (·, rest)

/-- Digits of which only so many fit are taken alike, whatever follows them. -/
theorem takeDigits_append_rest (limit : Nat) {rest : List Char} (hrest : startsDigit rest = false) :
    ∀ (ds : List Char) (n : Nat), takeDigits limit n (ds ++ rest) =
      ((takeDigits limit n ds).1, (takeDigits limit n ds).2.1, (takeDigits limit n ds).2.2 ++ rest)
  | [], n => by
    cases rest with
    | nil => rfl
    | cons c cs =>
      have hc : c.isDigit = false := by simpa [startsDigit] using hrest
      simp [takeDigits, hc]
  | d :: ds, n => by
    rw [List.cons_append, takeDigits, takeDigits]
    split
    · rw [takeDigits_append_rest limit hrest ds]
    · rfl

/-- What is left of digits are digits. -/
theorem isDigit_of_mem_takeDigits {limit : Nat} : ∀ {ds : List Char} {n : Nat},
    (∀ d ∈ ds, d.isDigit) → ∀ d ∈ (takeDigits limit n ds).2.2, d.isDigit
  | [], _, _ => by simp [takeDigits]
  | d :: ds, n, hds => by
    rw [takeDigits]
    split
    · exact isDigit_of_mem_takeDigits fun e he => hds e (List.mem_cons_of_mem d he)
    · exact hds

theorem length_takeDigits (limit : Nat) : ∀ (ds : List Char) (n : Nat),
    (takeDigits limit n ds).2.1 + (takeDigits limit n ds).2.2.length = ds.length
  | [], _ => rfl
  | d :: ds, n => by
    rw [takeDigits]
    split
    · rw [List.length_cons, ← length_takeDigits limit ds (n * 10 + digitValue d)]
      exact Nat.add_right_comm ..
    · exact Nat.zero_add _

theorem startsDigit_append {ds rest : List Char} (hds : ∀ d ∈ ds, d.isDigit)
    (hrest : startsDigit rest = false) : startsDigit (ds ++ rest) = !ds.isEmpty := by
  cases ds with
  | nil => exact hrest
  | cons d ds => simp [startsDigit, hds d List.mem_cons_self]

theorem dropDigits_append {ds rest : List Char} (hds : ∀ d ∈ ds, d.isDigit)
    (hrest : startsDigit rest = false) : dropDigits (ds ++ rest) = rest := by
  rw [dropDigits, List.dropWhile_append_of_pos hds]
  cases rest with
  | nil => rfl
  | cons c cs =>
    have hc : c.isDigit = false := by simpa [startsDigit] using hrest
    simp [hc]

theorem takeWhile_append_rest {ds rest : List Char} (hds : ∀ d ∈ ds, d.isDigit)
    (hrest : startsDigit rest = false) : (ds ++ rest).takeWhile Char.isDigit = ds := by
  rw [List.takeWhile_append_of_pos hds]
  cases rest with
  | nil => exact List.append_nil ds
  | cons c cs =>
    have hc : c.isDigit = false := by simpa [startsDigit] using hrest
    simp [hc]

/-- Of a run of digits so many are taken as fit, and the others are dropped. -/
theorem exists_takeDigits (limit n : Nat) {ds : List Char} (hds : ∀ d ∈ ds, d.isDigit) :
    ∃ m count left, count + left.length = ds.length ∧ ∀ rest, startsDigit rest = false →
      takeDigits limit n (ds ++ rest) = (m, count, left ++ rest) ∧
      startsDigit (left ++ rest) = !left.isEmpty ∧ dropDigits (left ++ rest) = rest ∧
      (left ++ rest).takeWhile Char.isDigit = left := by
  have hleft : ∀ d ∈ (takeDigits limit n ds).2.2, d.isDigit := isDigit_of_mem_takeDigits hds
  exact ⟨_, _, _, length_takeDigits limit ds n, fun rest hrest =>
    ⟨takeDigits_append_rest limit hrest ds n, startsDigit_append hleft hrest,
      dropDigits_append hleft hrest, takeWhile_append_rest hleft hrest⟩⟩

theorem settles_exponentDigits {ds : List Char} (hds : IsDigits ds) (isPositive : Bool)
    (significand : Nat) (start : Int) (exponentPositive : Bool) :
    Settles (readExponentDigits isPositive significand start exponentPositive) ds := by
  obtain ⟨hne, hds⟩ := hds
  obtain ⟨e, count, left, -, htake⟩ := exists_takeDigits largestExponent 0 hds
  obtain ⟨d, tail, rfl⟩ := List.exists_cons_of_ne_nil hne
  have hd : d.isDigit = true := hds d List.mem_cons_self
  cases left with
  | nil =>
    refine ⟨floatOf isPositive significand (if exponentPositive then start + e else start - e),
      fun rest hrest => ?_⟩
    obtain ⟨htake, hstarts, -, -⟩ := htake rest hrest.startsDigit
    rw [List.cons_append] at htake ⊢
    simp only [readExponentDigits, hd, htake, hstarts]
    cases floatOf isPositive significand (if exponentPositive then start + e else start - e) <;> rfl
  | cons c left =>
    refine ⟨if significand ≠ 0 ∧ exponentPositive then .error .numberOutOfRange
      else .ok (.floating (if isPositive then 0.0 else -0.0)), fun rest hrest => ?_⟩
    obtain ⟨htake, hstarts, hdrop, -⟩ := htake rest hrest.startsDigit
    rw [List.cons_append] at htake ⊢
    simp only [readExponentDigits, hd, htake, hstarts, hdrop]
    by_cases hrange : significand ≠ 0 ∧ exponentPositive
    · rw [if_pos hrange, if_pos hrange]
      rfl
    · rw [if_neg hrange, if_neg hrange]
      rfl

theorem startsDigit_exponent {cs : List Char} (h : IsExponent cs) {rest : List Char}
    (hrest : Stops rest) : startsDigit (cs ++ rest) = false := by
  cases h with
  | none => exact hrest.startsDigit
  | plain hmark | signed hmark => rcases hmark with rfl | rfl <;> rfl

/-- An exponent without a sign counts as positive. -/
theorem readExponent_digits {ds : List Char} (hds : IsDigits ds) (isPositive : Bool)
    (significand : Nat) (start : Int) (rest : List Char) :
    readExponent isPositive significand start (ds ++ rest) =
      readExponentDigits isPositive significand start true (ds ++ rest) := by
  obtain ⟨d, tail, rfl⟩ := List.exists_cons_of_ne_nil hds.1
  have hd := hds.2 d List.mem_cons_self
  have hplus : d ≠ '+' := ne_of_isDigit hd (by decide)
  have hminus : d ≠ '-' := ne_of_isDigit hd (by decide)
  rw [List.cons_append, readExponent]
  · rintro _ ⟨⟩
    exact hplus rfl
  · rintro _ ⟨⟩
    exact hminus rfl

theorem settles_finishFloat {cs : List Char} (h : IsExponent cs) (isPositive : Bool)
    (significand : Nat) (e : Int) : Settles (finishFloat isPositive significand e) cs := by
  have hfinish : ∀ {mark : Char} (cs : List Char), mark = 'e' ∨ mark = 'E' →
      finishFloat isPositive significand e (mark :: cs) =
        readExponent isPositive significand e cs := by
    rintro mark cs (rfl | rfl) <;> rfl
  cases h with
  | none =>
    refine ⟨floatOf isPositive significand e, fun rest hrest => ?_⟩
    cases rest with
    | nil => cases h : floatOf isPositive significand e <;> simp [finishFloat, h] <;> rfl
    | cons c rest =>
      have hmark : isExponentMark c = false := (hrest c rfl).2.2
      cases h : floatOf isPositive significand e <;> simp [finishFloat, hmark, h] <;> rfl
  | plain hmark hds =>
    obtain ⟨o, ho⟩ := settles_exponentDigits hds isPositive significand e true
    refine ⟨o, fun rest hrest => ?_⟩
    rw [List.cons_append, hfinish _ hmark, readExponent_digits hds, ho rest hrest]
  | signed hmark hsign hds =>
    rcases hsign with rfl | rfl
    · obtain ⟨o, ho⟩ := settles_exponentDigits hds isPositive significand e true
      refine ⟨o, fun rest hrest => ?_⟩
      rw [List.cons_append, hfinish _ hmark, List.cons_append, readExponent, ho rest hrest]
    · obtain ⟨o, ho⟩ := settles_exponentDigits hds isPositive significand e false
      refine ⟨o, fun rest hrest => ?_⟩
      rw [List.cons_append, hfinish _ hmark, List.cons_append, readExponent, ho rest hrest]

theorem settles_readFraction {ds cs : List Char} (hds : IsDigits ds) (h : IsExponent cs)
    (isPositive : Bool) (significand : Nat) (e : Int) :
    Settles (readFraction isPositive significand e) (ds ++ cs) := by
  obtain ⟨m, count, left, hlength, htake⟩ := exists_takeDigits largestWord significand hds.2
  obtain ⟨o, ho⟩ := settles_finishFloat h isPositive m (e - count)
  refine ⟨o, fun rest hrest => ?_⟩
  obtain ⟨htake, hstarts, hdrop, -⟩ := htake _ (startsDigit_exponent h hrest)
  rw [List.append_assoc]
  simp only [readFraction, htake, hstarts, hdrop]
  cases left with
  | cons c left => exact ho rest hrest
  | nil =>
    have hcount : count ≠ 0 := by
      have := List.length_pos_iff.2 hds.1
      simp at hlength
      omega
    simp only [List.isEmpty_nil, Bool.not_true, Bool.false_eq_true, if_false, hcount,
      List.nil_append]
    exact ho rest hrest

/-- Behind the whole part a number ends or goes on with its exponent, if it has no point. -/
theorem readAfterWhole_of_ne {cs : List Char} (h : ∀ rest, cs ≠ '.' :: rest) (isPositive : Bool)
    (significand : Nat) (e : Int) (isWhole : Bool) :
    readAfterWhole isPositive significand e isWhole cs =
      if isWhole ∧ !cs.head?.any isExponentMark then .ok (ofInteger isPositive significand, cs)
      else finishFloat isPositive significand e cs := by
  rw [readAfterWhole]
  exact h

theorem settles_readAfterWhole {fraction exponent : List Char} (hf : IsFraction fraction)
    (he : IsExponent exponent) (isPositive : Bool) (significand : Nat) (e : Int) (isWhole : Bool) :
    Settles (readAfterWhole isPositive significand e isWhole) (fraction ++ exponent) := by
  cases hf with
  | some hds =>
    obtain ⟨o, ho⟩ := settles_readFraction hds he isPositive significand e
    refine ⟨o, fun rest hrest => ?_⟩
    rw [List.cons_append, List.cons_append, readAfterWhole, ho rest hrest]
  | none =>
    rw [List.nil_append]
    obtain ⟨o, ho⟩ := settles_finishFloat he isPositive significand e
    -- Only without an exponent, too, is the number an integer.
    cases he with
    | none =>
      refine ⟨if isWhole then .ok (ofInteger isPositive significand) else o, fun rest hrest => ?_⟩
      have hpoint : ∀ more, rest ≠ '.' :: more := by
        rintro more rfl
        exact (hrest '.' rfl).2.1 rfl
      have hmark : rest.head?.any isExponentMark = false := by
        cases rest with
        | nil => rfl
        | cons c cs => simpa using (hrest c rfl).2.2
      rw [List.nil_append, readAfterWhole_of_ne hpoint]
      cases isWhole with
      | true => simp only [hmark, Bool.not_false, and_self, if_true]; rfl
      | false => exact ho rest hrest
    | plain hmark | signed hmark =>
      refine ⟨o, fun rest hrest => ?_⟩
      rw [← ho rest hrest]
      rcases hmark with rfl | rfl
      · exact (readAfterWhole_of_ne (by simp) ..).trans (by simp [isExponentMark])
      · exact (readAfterWhole_of_ne (by simp) ..).trans (by simp [isExponentMark])

theorem startsDigit_fraction {fraction exponent : List Char} (hf : IsFraction fraction)
    (he : IsExponent exponent) {rest : List Char} (hrest : Stops rest) :
    startsDigit (fraction ++ exponent ++ rest) = false := by
  cases hf with
  | none => exact startsDigit_exponent he hrest
  | some => rfl

/-- A number is read the same way whatever follows it. -/
theorem settles_read {cs : List Char} (h : IsMagnitude cs) (isPositive : Bool) :
    Settles (read isPositive) cs := by
  obtain @⟨whole, fraction, exponent, hwhole, hf, he⟩ := h
  cases hwhole with
  | zero =>
    obtain ⟨o, ho⟩ := settles_readAfterWhole hf he isPositive 0 0 true
    refine ⟨o, fun rest hrest => ?_⟩
    have hstarts := startsDigit_fraction hf he hrest
    rw [← ho rest hrest]
    simp only [List.cons_append, List.nil_append, read, hstarts]
    rfl
  | @digits c ds hc hzero hds =>
    have hall : ∀ d ∈ c :: ds, d.isDigit := List.forall_mem_cons.2 ⟨hc, hds⟩
    obtain ⟨m, count, left, -, htake⟩ := exists_takeDigits largestWord 0 hall
    obtain ⟨o, ho⟩ := settles_readAfterWhole hf he isPositive m left.length left.isEmpty
    refine ⟨o, fun rest hrest => ?_⟩
    obtain ⟨htake, -, hdrop, hleft⟩ := htake _ (startsDigit_fraction hf he hrest)
    rw [← ho rest hrest, List.append_assoc]
    rw [List.cons_append] at htake ⊢
    rw [read]
    · simp only [hc, htake, hdrop, hleft]
      rfl
    · exact hzero

/-- What a number is read as, if it is in range. -/
def ofLexeme? : List Char → Option Number
  | '-' :: cs => (read false cs).toOption.map (·.1)
  | cs => (read true cs).toOption.map (·.1)

theorem exists_digit {cs : List Char} (h : IsMagnitude cs) :
    ∃ d tail, cs = d :: tail ∧ d.isDigit := by
  obtain ⟨hwhole, -, -⟩ := h
  cases hwhole with
  | zero => exact ⟨_, _, rfl, rfl⟩
  | digits hc => exact ⟨_, _, rfl, hc⟩

theorem exists_start {cs : List Char} (h : IsNumber cs) :
    ∃ d tail, cs = d :: tail ∧ (d = '-' ∨ d.isDigit) := by
  cases h with
  | positive h =>
    obtain ⟨d, tail, rfl, hd⟩ := exists_digit h
    exact ⟨d, tail, rfl, .inr hd⟩
  | negative h => exact ⟨_, _, rfl, .inl rfl⟩

end Number

end SchemaTypes.Json
