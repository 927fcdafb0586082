/-
What a change of case makes of the first letter of a text.

A character that changes at all becomes a letter of the other case, or several
characters that begin with one. The standard has one exception: `ŉ`, which
becomes the apostrophe-like letter `ʼ` and an `N`. All other characters stay as
they are, whether they are letters without a counterpart or none at all. So a
text with its first character in upper or lower case starts with such a letter
exactly if that character was one or has changed.

The tables are compared run by run: the images of a run are a run again, and
lie in one run of the letters but for the first one (`CodeRun.coveredBy`).
-/
import SchemaTypes.Text.LetterCase

namespace SchemaTypes.Text

/-! ## Runs in tables -/

namespace CodeRun

/-- Whether the run lies in another one: both its ends do, and so does what stands between. -/
def within (r t : CodeRun) : Bool :=
  t.contains r.first && t.contains r.last && (r.first == r.last || r.step % t.step == 0)

/-- The run without its first code point. -/
def tail (r : CodeRun) : CodeRun :=
  { r with first := r.first + r.step }

/-- Whether a table holds the run, all of it or all but the first code point in one run of its
own. -/
def coveredBy (r : CodeRun) (table : List CodeRun) : Bool :=
  table.any r.within || table.any (·.contains r.first) && table.any r.tail.within

variable {r t : CodeRun} {table : List CodeRun} {n : Nat}

theorem contains_iff :
    r.contains n ↔ r.first ≤ n ∧ n ≤ r.last ∧ r.step ∣ n - r.first := by
  simp [contains, and_assoc, Nat.dvd_iff_mod_eq_zero]

theorem contains_of_within (h : r.within t) (hn : r.contains n) : t.contains n := by
  simp only [within, Bool.and_eq_true, Bool.or_eq_true, beq_iff_eq, contains_iff] at h
  rw [contains_iff] at hn ⊢
  obtain ⟨⟨⟨hfirst, -, hdvd⟩, -, hlast, -⟩, hstep⟩ := h
  obtain ⟨hlow, hhigh, hsteps⟩ := hn
  refine ⟨by omega, by omega, ?_⟩
  rcases hstep with hsingle | hstep
  · obtain rfl : n = r.first := by omega
    exact hdvd
  · have hsplit : n - t.first = (n - r.first) + (r.first - t.first) := by omega
    rw [hsplit]
    exact Nat.dvd_add (Nat.dvd_trans (Nat.dvd_of_mod_eq_zero hstep) hsteps) hdvd

theorem eq_first_or_tail (hn : r.contains n) : n = r.first ∨ r.tail.contains n := by
  rw [contains_iff] at hn ⊢
  obtain ⟨hlow, hhigh, k, hk⟩ := hn
  cases k with
  | zero => exact .inl (by omega)
  | succ k =>
    have hnext : r.step * (k + 1) = r.step * k + r.step := Nat.mul_succ ..
    exact .inr ⟨by simp only [tail]; omega, hhigh, k, by simp only [tail]; omega⟩

theorem any_contains_of_coveredBy (h : r.coveredBy table) (hn : r.contains n) :
    table.any (·.contains n) := by
  have hany : ∀ {r : CodeRun}, table.any r.within → r.contains n → table.any (·.contains n) := by
    intro r hwithin hn
    obtain ⟨t, ht, hr⟩ := List.any_eq_true.1 hwithin
    exact List.any_eq_true.2 ⟨t, ht, contains_of_within hr hn⟩
  simp only [coveredBy, Bool.or_eq_true, Bool.and_eq_true] at h
  rcases h with h | ⟨hfirst, h⟩
  · exact hany h hn
  · rcases eq_first_or_tail hn with rfl | htail
    · exact hfirst
    · exact hany h htail

end CodeRun

/-- The run of the images of a run. -/
def CaseRun.image (r : CaseRun) : CodeRun where
  first := r.target
  last := r.source.last - r.source.first + r.target
  step := r.source.step

theorem CaseRun.image_contains {r : CaseRun} {n : Nat} (h : r.source.contains n) :
    r.image.contains (n - r.source.first + r.target) := by
  rw [CodeRun.contains_iff] at h ⊢
  obtain ⟨hlow, hhigh, hsteps⟩ := h
  exact ⟨by simp [image], by simp only [image]; omega, by simpa [image] using hsteps⟩

/-- Whether all code points of a run are those of characters. -/
def CodeRun.isValid (r : CodeRun) : Bool :=
  r.last < 0xD800 || 0xDFFF < r.first && r.last < 0x110000

section Tables

variable {letters : List CodeRun} (hvalid : letters.all CodeRun.isValid)
  {runs : List CaseRun} (hruns : runs.all (·.image.coveredBy letters))
include hvalid

theorem holds_ofNat {n : Nat} (h : letters.any (·.contains n)) : holds letters (Char.ofNat n) := by
  obtain ⟨r, hr, hn⟩ := List.any_eq_true.1 h
  have hchar : n.isValidChar := by
    have hrun := List.all_eq_true.1 hvalid r hr
    simp only [CodeRun.isValid, Bool.or_eq_true, Bool.and_eq_true, decide_eq_true_eq] at hrun
    obtain ⟨hlow, hhigh, -⟩ := CodeRun.contains_iff.1 hn
    simp only [Nat.isValidChar]
    omega
  have hsame : (Char.ofNat n).toNat = n := by
    rw [Char.ofNat, dif_pos hchar]
    rfl
  exact List.any_eq_true.2 ⟨r, hr, by rwa [hsame]⟩

include hruns

theorem holds_image {c d : Char} (h : image? runs c = some d) : holds letters d := by
  obtain ⟨r, hr, rfl⟩ := Option.map_eq_some_iff.1 h
  have hcovered := List.all_eq_true.1 hruns r (List.mem_of_find?_eq_some hr)
  have hsource : r.source.contains c.toNat :=
    List.find?_some (p := fun x : CaseRun => x.source.contains c.toNat) hr
  exact holds_ofNat hvalid
    (CodeRun.any_contains_of_coveredBy hcovered (CaseRun.image_contains hsource))

/-- A character that changes becomes one letter, or several characters that begin with one,
unless it is an exception. -/
theorem holds_head_mapCase {expansions : List (Nat × List Nat)} (except : List Nat)
    (hexpansions : ∀ e ∈ expansions, e.1 ∉ except →
      ∃ n ∈ e.2.head?, letters.any (·.contains n)) {c : Char} (hc : c.toNat ∉ except)
    (hne : mapCase expansions runs c ≠ [c]) :
    (mapCase expansions runs c).head?.any (holds letters) := by
  unfold mapCase at hne ⊢
  split
  · next codes hcodes =>
    obtain ⟨before, after, hsplit, -⟩ := List.lookup_eq_some_iff.1 hcodes
    obtain ⟨n, hn, hletter⟩ := hexpansions (c.toNat, codes) (by simp [hsplit]) hc
    rw [List.head?_map, Option.mem_def.1 hn]
    exact holds_ofNat hvalid hletter
  · next hnone =>
    simp only [hnone] at hne
    cases himage : image? runs c with
    | none => simp [himage] at hne
    | some d => simpa using holds_image hvalid hruns himage

end Tables

/-! ## The mappings of the standard -/

/-- Characters without an upper case that begins with an upper case letter: `ŉ`. -/
def upperExceptions : List Nat :=
  [0x149]

theorem isUppercase_head_upperOf {c : Char} (hc : c ≠ 'ŉ') (hne : upperOf c ≠ [c]) :
    (upperOf c).head?.any isUppercase := by
  refine holds_head_mapCase (by decide +kernel) (by decide +kernel) upperExceptions
    (by decide +kernel) ?_ hne
  intro h
  exact hc (Char.toNat_inj.1 (List.mem_singleton.1 h))

theorem isLowercase_head_lowerOf {c : Char} (hne : lowerOf c ≠ [c]) :
    (lowerOf c).head?.any isLowercase :=
  holds_head_mapCase (by decide +kernel) (by decide +kernel) [] (by decide +kernel)
    List.not_mem_nil hne

/-! ## First letters -/

section First

variable {f : Char → List Char} {s : String} {c : Char} {cs : List Char}

theorem mapFirst_of_cons (hs : s.toList = c :: cs) : (mapFirst f s).toList = f c ++ cs := by
  simp [mapFirst, hs]

theorem mapFirst_of_nil (hs : s.toList = []) : mapFirst f s = s := by
  rw [← String.toList_inj]
  simp [mapFirst, hs]

theorem mapFirst_eq_self_iff (hs : s.toList = c :: cs) : mapFirst f s = s ↔ f c = [c] := by
  rw [← String.toList_inj, mapFirst_of_cons hs, hs]
  change f c ++ cs = [c] ++ cs ↔ f c = [c]
  exact List.append_left_inj cs

/-- Where a character that changes becomes a letter, a text that does not start with one does
so after the change of its first character exactly if that has changed. -/
theorem starts_mapFirst_iff {isLetter : Char → Bool} (hs : ¬s.toList.head?.any isLetter)
    (hf : ∀ c ∈ s.toList.head?, f c ≠ [c] → (f c).head?.any isLetter) :
    (mapFirst f s).toList.head?.any isLetter ↔ mapFirst f s ≠ s := by
  match hcs : s.toList with
  | [] => simpa [mapFirst_of_nil hcs] using hs
  | c :: cs =>
    rw [ne_eq, mapFirst_eq_self_iff hcs, mapFirst_of_cons hcs]
    by_cases hsame : f c = [c]
    · simpa [hsame, hcs] using hs
    · obtain ⟨d, hd, hletter⟩ := (Option.any_eq_true _ _).1 (hf c (by simp [hcs]) hsame)
      simp [hsame, List.head?_append, hd, hletter]

/-- **When a name can be capitalized.** Of a name that does not start with an upper case letter,
`capitalize` makes one that does exactly if it makes another name of it at all, and that name
does not begin with `ŉ`. -/
theorem startsUppercase_capitalize_iff (hs : ¬startsUppercase s) :
    startsUppercase (capitalize s) ↔ capitalize s ≠ s ∧ s.toList.head? ≠ some 'ŉ' := by
  by_cases hn : s.toList.head? = some 'ŉ'
  · obtain ⟨cs, hcs⟩ := List.head?_eq_some_iff.1 hn
    have hupper : upperOf 'ŉ' = ['ʼ', 'N'] := by decide +kernel
    have hmark : isUppercase 'ʼ' = false := by decide +kernel
    simp [hn, startsUppercase, capitalize, mapFirst_of_cons hcs, hupper, hmark]
  · rw [and_iff_left hn]
    refine starts_mapFirst_iff hs fun c hc hne => isUppercase_head_upperOf ?_ hne
    rintro rfl
    exact hn hc

theorem startsLowercase_uncapitalize_iff (hs : ¬startsLowercase s) :
    startsLowercase (uncapitalize s) ↔ uncapitalize s ≠ s :=
  starts_mapFirst_iff hs fun _ _ => isLowercase_head_lowerOf

end First

end SchemaTypes.Text
