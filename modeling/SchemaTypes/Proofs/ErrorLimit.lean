/-
A queue with a limit for errors beside one without, given the same calls.

The limit is looked at before the repeats, and the repeats are looked for among
what is kept, so the two queues search different lists. But the queue with the
limit has all that the other one has except the errors after the first few
(`withFirstErrors`), and it looks for an error only as long as none is missing.
So both find the same repeats (`isRepeat_iff_of_kept`), and an offer keeps the
two lists in that relation (`kept_offer`).
-/
import SchemaTypes.Proofs.QueueHistory

namespace SchemaTypes.Queue

/-! ## The first errors -/

/-- The diagnostics without the errors after the first few. -/
def withFirstErrors : Nat → List Diagnostic → List Diagnostic
  | _, [] => []
  | 0, d :: ds => if d.isError then withFirstErrors 0 ds else d :: withFirstErrors 0 ds
  | n + 1, d :: ds => d :: withFirstErrors (if d.isError then n else n + 1) ds

theorem withFirstErrors_concat (n : Nat) (ds : List Diagnostic) (d : Diagnostic) :
    withFirstErrors n (ds ++ [d]) = withFirstErrors n ds ++
      if d.isError ∧ n ≤ ds.countP (·.isError) then [] else [d] := by
  induction ds generalizing n with
  | nil => cases n <;> by_cases hd : d.isError <;> simp [withFirstErrors, hd]
  | cons e ds ih =>
    cases n with
    | zero => by_cases he : e.isError <;> simp [withFirstErrors, ih, he]
    | succ n => by_cases he : e.isError <;> simp [withFirstErrors, ih, he]

theorem countP_withFirstErrors (n : Nat) (ds : List Diagnostic) :
    (withFirstErrors n ds).countP (·.isError) = min n (ds.countP (·.isError)) := by
  induction ds using List.reverseRecOn with
  | nil => simp [withFirstErrors]
  | append_singleton ds d ih =>
    rw [withFirstErrors_concat, List.countP_append, List.countP_append, ih, List.countP_singleton]
    by_cases hd : d.isError
    · by_cases hn : n ≤ ds.countP (·.isError)
      · simp [hd, hn]
        omega
      · simp [hd, hn]
        omega
    · simp [hd]

theorem filter_withFirstErrors {p : Diagnostic → Bool} (hp : ∀ d : Diagnostic, d.isError → ¬p d)
    (n : Nat) (ds : List Diagnostic) : (withFirstErrors n ds).filter p = ds.filter p := by
  induction ds using List.reverseRecOn with
  | nil => rfl
  | append_singleton ds d ih =>
    rw [withFirstErrors_concat, List.filter_append, List.filter_append, ih]
    split
    · next hlate => simp [hp d hlate.1]
    · rfl

theorem withFirstErrors_eq_self {n : Nat} {ds : List Diagnostic}
    (hn : ds.countP (·.isError) ≤ n) : withFirstErrors n ds = ds := by
  induction ds using List.reverseRecOn with
  | nil => rfl
  | append_singleton ds d ih =>
    rw [List.countP_append, List.countP_singleton] at hn
    rw [withFirstErrors_concat, ih (by omega), if_neg]
    rintro ⟨hd, hlate⟩
    rw [if_pos hd] at hn
    omega

theorem mem_withFirstErrors_iff {n : Nat} {ds : List Diagnostic} {d : Diagnostic}
    (hd : d.isError → ds.countP (·.isError) < n) : d ∈ withFirstErrors n ds ↔ d ∈ ds := by
  by_cases herror : d.isError
  · rw [withFirstErrors_eq_self (Nat.le_of_lt (hd herror))]
  · have hfilter := filter_withFirstErrors (p := fun e => !e.isError) (by simp) n ds
    have hmem : d ∈ (withFirstErrors n ds).filter (!·.isError) ↔ d ∈ ds.filter (!·.isError) := by
      rw [hfilter]
    simpa [List.mem_filter, herror] using hmem

/-! ## One offer to both -/

section Offer

variable {limit : Nat} {deduplicate : Bool} {offered : List Diagnostic} {limited free : Queue}
  {d : Diagnostic}

theorem not_limitReached (hfree : free.Accounts ⟨0, deduplicate⟩ offered) :
    ¬free.limitReached := by
  simp [limitReached, hfree.configured]

theorem limitReached_iff_of_kept (hlimit : 0 < limit)
    (hlimited : limited.Accounts ⟨limit, deduplicate⟩ offered)
    (h : limited.kept.toList = withFirstErrors limit free.kept.toList) :
    limited.limitReached ↔ limit ≤ free.kept.toList.countP (·.isError) := by
  rw [hlimited.limitReached_iff, Full, hlimited.configured, h, countP_withFirstErrors]
  simp only [hlimit, true_and]
  omega

theorem isRepeat_iff_of_kept (hlimited : limited.Accounts ⟨limit, deduplicate⟩ offered)
    (hfree : free.Accounts ⟨0, deduplicate⟩ offered)
    (h : limited.kept.toList = withFirstErrors limit free.kept.toList)
    (hd : d.isError → free.kept.toList.countP (·.isError) < limit) :
    limited.isRepeat d ↔ free.isRepeat d := by
  rw [isRepeat_iff, isRepeat_iff, hlimited.configured, hfree.configured, h,
    mem_withFirstErrors_iff hd]

/-- Unless it is an error that comes too late, both queues do the same with an offer. -/
theorem offer_agree (hlimit : 0 < limit)
    (hlimited : limited.Accounts ⟨limit, deduplicate⟩ offered)
    (hfree : free.Accounts ⟨0, deduplicate⟩ offered)
    (h : limited.kept.toList = withFirstErrors limit free.kept.toList)
    (hd : ¬(d.isError ∧ limit ≤ free.kept.toList.countP (·.isError))) :
    (limited.offer d = (false, limited) ∧ free.offer d = (false, free)) ∨
    (limited.offer d = (true, limited.keep d) ∧ free.offer d = (true, free.keep d)) := by
  have hreached := limitReached_iff_of_kept hlimit hlimited h
  have hrepeats := isRepeat_iff_of_kept (d := d) hlimited hfree h (by simpa using hd)
  rw [← hreached] at hd
  have hfree' : ¬(d.isError ∧ free.limitReached) := fun hlate => not_limitReached hfree hlate.2
  rcases limited.offer_cases d with ⟨hlate, -⟩ | ⟨-, hrepeat, heq⟩ | ⟨-, hnew, heq⟩
  · exact absurd hlate hd
  · rcases free.offer_cases d with ⟨hlate, -⟩ | ⟨-, -, heq'⟩ | ⟨-, hnew, -⟩
    · exact absurd hlate hfree'
    · exact .inl ⟨heq, heq'⟩
    · exact absurd (hrepeats.1 hrepeat) hnew
  · rcases free.offer_cases d with ⟨hlate, -⟩ | ⟨-, hrepeat, -⟩ | ⟨-, -, heq'⟩
    · exact absurd hlate hfree'
    · exact absurd (hrepeats.2 hrepeat) hnew
    · exact .inr ⟨heq, heq'⟩

theorem kept_offer (hlimit : 0 < limit)
    (hlimited : limited.Accounts ⟨limit, deduplicate⟩ offered)
    (hfree : free.Accounts ⟨0, deduplicate⟩ offered)
    (h : limited.kept.toList = withFirstErrors limit free.kept.toList) (d : Diagnostic) :
    (limited.offer d).2.kept.toList = withFirstErrors limit (free.offer d).2.kept.toList := by
  by_cases hd : d.isError ∧ limit ≤ free.kept.toList.countP (·.isError)
  · -- The error is left out of the one queue, and does not count among the first in the other.
    have hsuppressed : (limited.offer d).2.kept = limited.kept := by
      simp [Queue.offer, hd.1, (limitReached_iff_of_kept hlimit hlimited h).2 hd.2]
    rw [hsuppressed, h]
    rcases free.offer_cases d with ⟨hlate, -⟩ | ⟨-, -, heq⟩ | ⟨-, -, heq⟩
    · exact absurd hlate.2 (not_limitReached hfree)
    · rw [heq]
    · rw [heq, keep_kept, Array.toList_push, withFirstErrors_concat, if_pos hd, List.append_nil]
  · rcases offer_agree hlimit hlimited hfree h hd with ⟨heq, heq'⟩ | ⟨heq, heq'⟩
    · rw [heq, heq', h]
    · rw [heq, heq', keep_kept, keep_kept, Array.toList_push, Array.toList_push, h,
        withFirstErrors_concat, if_neg hd]

end Offer

/-! ## All calls -/

theorem kept_offerAll {limit : Nat} (hlimit : 0 < limit) (deduplicate : Bool)
    (ds : List Diagnostic) : ((fresh ⟨limit, deduplicate⟩).offerAll ds).kept.toList =
      withFirstErrors limit ((fresh ⟨0, deduplicate⟩).offerAll ds).kept.toList := by
  induction ds using List.reverseRecOn with
  | nil => rfl
  | append_singleton ds d ih =>
    rw [offerAll_concat, offerAll_concat]
    exact kept_offer hlimit (accounts_offerAll _ ds) (accounts_offerAll _ ds) ih d

/-- What a limit changes in a queue. -/
structure LimitedTo (limit : Nat) (limited free : Queue) : Prop where
  /-- Errors after the first few are missing. -/
  kept : limited.kept.toList = withFirstErrors limit free.kept.toList
  errors : limited.errors = min limit free.errors
  /-- All else is there, and in its order. -/
  others : limited.kept.toList.filter (!·.isError) = free.kept.toList.filter (!·.isError)
  warnings : limited.warnings = free.warnings
  /-- What is not an error is kept or dropped as without a limit, also when it is reached. -/
  answers : ∀ d : Diagnostic, ¬d.isError → (limited.offer d).1 = (free.offer d).1

/-- **A limit leaves out the errors after the first few, and nothing else.** -/
theorem limitedTo_performAll {limit : Nat} (hlimit : 0 < limit) (deduplicate : Bool)
    (calls : List Call) : LimitedTo limit ((fresh ⟨limit, deduplicate⟩).performAll calls)
      ((fresh ⟨0, deduplicate⟩).performAll calls) := by
  rw [performAll_eq_offerAll, performAll_eq_offerAll]
  have hkept := kept_offerAll hlimit deduplicate (offeredBy calls)
  have hlimited := accounts_offerAll ⟨limit, deduplicate⟩ (offeredBy calls)
  have hfree := accounts_offerAll ⟨0, deduplicate⟩ (offeredBy calls)
  refine ⟨hkept, ?errors, ?others, ?warnings, fun d hd => ?answers⟩
  case errors => rw [hlimited.errors, hfree.errors, hkept, countP_withFirstErrors]
  case others => rw [hkept, filter_withFirstErrors (by simp)]
  case warnings =>
    have hwarning (d : Diagnostic) (hd : d.isError) : ¬(d.severity == .warning) := by
      simp [beq_iff_eq.1 hd]
    rw [hlimited.warnings, hfree.warnings, hkept, List.countP_eq_length_filter,
      filter_withFirstErrors hwarning, ← List.countP_eq_length_filter]
  case answers =>
    rcases offer_agree hlimit hlimited hfree hkept (fun hlate => hd hlate.1) with
      ⟨heq, heq'⟩ | ⟨heq, heq'⟩ <;> rw [heq, heq']

/-- Two errors, and in between a warning and the first error once more: with room for one error,
the second one is missing and the repeat has not been looked for. -/
theorem limitedTo_one : 0 < 1 ∧
    let calls := [.add ⟨.fieldSize, .error, "", [], [], []⟩, .extend
      [⟨.fieldSize, .warning, "", [], [], []⟩, ⟨.fieldSize, .error, "", [], [], []⟩],
      .add ⟨.decimalScale, .error, "", [], [], []⟩]
    let limited := (fresh ⟨1, true⟩).performAll calls
    let free := (fresh ⟨0, true⟩).performAll calls
    LimitedTo 1 limited free ∧ limited.kept.size = 2 ∧ limited.suppressed = 2 ∧
      free.kept.size = 3 :=
  ⟨by decide, limitedTo_performAll (by decide) true _, by decide +kernel⟩

end SchemaTypes.Queue
