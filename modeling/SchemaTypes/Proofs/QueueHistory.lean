/-
Calls to a queue, one after the other, and what it holds and counts then.

A flush leaves the queue as configured, so after any calls it is what the
diagnostics offered since the last flush have made of a fresh one
(`performAll_eq_offerAll`). An offer has one of three outcomes (`offer_cases`),
and each of them keeps the accounts: the counts are those of what is kept, and
an error leaves its trace wherever it ends, among what is kept, as the equal of
something kept, or in the count of the suppressed ones (`Accounts.offer`).
-/
import SchemaTypes.Proofs.PlaceOrder
import Mathlib.Data.List.Induction
import Mathlib.Data.List.Nodup

namespace SchemaTypes.Queue

/-! ## One offer -/

section Keep

variable (q : Queue) (d : Diagnostic)

theorem keep_config : (q.keep d).config = q.config := by
  unfold keep
  cases d.severity <;> rfl

theorem keep_kept : (q.keep d).kept = q.kept.push d := by
  unfold keep
  cases d.severity <;> rfl

theorem keep_errors : (q.keep d).errors = q.errors + if d.isError then 1 else 0 := by
  unfold keep Diagnostic.isError
  cases d.severity <;> rfl

theorem keep_warnings :
    (q.keep d).warnings = q.warnings + if d.severity == .warning then 1 else 0 := by
  unfold keep
  cases d.severity <;> rfl

theorem keep_suppressed : (q.keep d).suppressed = q.suppressed := by
  unfold keep
  cases d.severity <;> rfl

/-- The three outcomes of an offer. An error that comes too late is counted without a look at
what is kept; everything else is dropped if it repeats something, and kept if not. -/
theorem offer_cases :
    ((d.isError ∧ q.limitReached) ∧
      q.offer d = (false, { q with suppressed := q.suppressed + 1 })) ∨
    (¬(d.isError ∧ q.limitReached) ∧ q.isRepeat d ∧ q.offer d = (false, q)) ∨
    (¬(d.isError ∧ q.limitReached) ∧ ¬q.isRepeat d ∧ q.offer d = (true, q.keep d)) := by
  unfold offer
  by_cases hlate : d.isError ∧ q.limitReached
  · exact .inl ⟨hlate, by simp [hlate]⟩
  · have hlate' : ¬(d.isError && q.limitReached) = true := by simpa using hlate
    by_cases hrepeat : q.isRepeat d
    · exact .inr (.inl ⟨hlate, hrepeat, by simp [hlate', hrepeat]⟩)
    · exact .inr (.inr ⟨hlate, hrepeat, by simp [hlate', hrepeat]⟩)

theorem isRepeat_iff : q.isRepeat d ↔ q.config.deduplicate ∧ d ∈ q.kept.toList := by
  simp [isRepeat]

end Keep

theorem offerAll_concat (q : Queue) (ds : List Diagnostic) (d : Diagnostic) :
    q.offerAll (ds ++ [d]) = ((q.offerAll ds).offer d).2 := by
  simp [offerAll]

theorem offerAll_append (q : Queue) (ds es : List Diagnostic) :
    q.offerAll (ds ++ es) = (q.offerAll ds).offerAll es := by
  simp [offerAll]

/-! ## Accounts -/

/-- A queue as it is configured, before anything is offered. -/
def fresh (config : QueueConfig) : Queue := { config }

/-- The queue has a limit for errors and keeps as many as that admits. -/
def Full (q : Queue) : Prop :=
  0 < q.config.errorLimit ∧ q.config.errorLimit ≤ q.kept.toList.countP (·.isError)

instance (q : Queue) : Decidable q.Full :=
  inferInstanceAs (Decidable (_ ∧ _))

/-- How many errors, of what is offered to a fresh queue one after the other, come at a moment
when the queue is full. -/
def lateErrors (config : QueueConfig) (ds : List Diagnostic) : Nat :=
  ds.zipIdx.countP fun (d, i) => d.isError && ((fresh config).offerAll (ds.take i)).Full

theorem lateErrors_concat (config : QueueConfig) (ds : List Diagnostic) (d : Diagnostic) :
    lateErrors config (ds ++ [d]) =
      lateErrors config ds + if d.isError ∧ ((fresh config).offerAll ds).Full then 1 else 0 := by
  have hold : ds.zipIdx.countP (fun x : Diagnostic × Nat => x.1.isError &&
        ((fresh config).offerAll ((ds ++ [d]).take x.2)).Full) = lateErrors config ds := by
    refine List.countP_congr fun ⟨e, i⟩ he => ?_
    have hi : i ≤ ds.length := by
      have := List.snd_lt_of_mem_zipIdx he
      omega
    rw [List.take_append_of_le_length hi]
  rw [lateErrors, List.zipIdx_append, List.countP_append, hold]
  simp [List.countP_cons]

/-- What a queue holds and counts when these diagnostics have been offered to it since it was
fresh. -/
structure Accounts (config : QueueConfig) (offered : List Diagnostic) (q : Queue) : Prop where
  configured : q.config = config
  errors : q.errors = q.kept.toList.countP (·.isError)
  warnings : q.warnings = q.kept.toList.countP (·.severity == .warning)
  /-- What is kept is in the order in which it was offered. -/
  ordered : q.kept.toList.Sublist offered
  distinct : config.deduplicate → q.kept.toList.Nodup
  bounded : 0 < config.errorLimit → q.errors ≤ config.errorLimit
  suppressed : q.suppressed = lateErrors config offered
  /-- No error is lost, whatever became of it. -/
  failure : q.failure?.isSome ↔ ∃ d ∈ offered, d.isError

theorem failure?_isSome_iff (q : Queue) : q.failure?.isSome ↔ 0 < q.errors + q.suppressed := by
  unfold failure? failureNotice?
  split <;> simp <;> omega

theorem exists_isError_concat {ds : List Diagnostic} {d : Diagnostic} :
    (∃ e ∈ ds ++ [d], e.isError) ↔ (∃ e ∈ ds, e.isError) ∨ d.isError := by
  simp [or_and_right, exists_or]

namespace Accounts

variable {config : QueueConfig} {offered : List Diagnostic} {q : Queue} {d : Diagnostic}

theorem start (config : QueueConfig) : (fresh config).Accounts config [] where
  configured := rfl
  errors := rfl
  warnings := rfl
  ordered := List.nil_sublist []
  distinct _ := List.nodup_nil
  bounded _ := Nat.zero_le _
  suppressed := rfl
  failure := by simp [failure?_isSome_iff, fresh]

theorem limitReached_iff (h : q.Accounts config offered) : q.limitReached ↔ q.Full := by
  simp only [limitReached, Full, h.errors, Bool.and_eq_true, bne_iff_ne, decide_eq_true_eq]
  omega

/-- An error that comes too late is counted. -/
theorem suppress (h : q.Accounts config offered) (hd : d.isError)
    (hlate : lateErrors config (offered ++ [d]) = lateErrors config offered + 1) :
    ({ q with suppressed := q.suppressed + 1 } : Queue).Accounts config (offered ++ [d]) :=
  { h with
    ordered := h.ordered.trans (List.sublist_append_left ..)
    suppressed := by rw [hlate, h.suppressed]
    failure := by
      rw [failure?_isSome_iff, exists_isError_concat]
      simp only [hd, or_true, iff_true]
      omega }

/-- What repeats something that is kept is dropped. If it is an error, so is what it repeats. -/
theorem drop (h : q.Accounts config offered) (hd : d ∈ q.kept.toList)
    (hlate : lateErrors config (offered ++ [d]) = lateErrors config offered) :
    q.Accounts config (offered ++ [d]) :=
  { h with
    ordered := h.ordered.trans (List.sublist_append_left ..)
    suppressed := by rw [hlate, h.suppressed]
    failure := by
      rw [h.failure, exists_isError_concat]
      exact (or_iff_left_of_imp fun herror => ⟨d, h.ordered.subset hd, herror⟩).symm }

theorem keep (h : q.Accounts config offered) (hnew : config.deduplicate → d ∉ q.kept.toList)
    (hroom : d.isError → ¬q.Full)
    (hlate : lateErrors config (offered ++ [d]) = lateErrors config offered) :
    (q.keep d).Accounts config (offered ++ [d]) where
  configured := by rw [keep_config, h.configured]
  errors := by simp [keep_errors, keep_kept, h.errors, List.countP_cons]
  warnings := by simp [keep_warnings, keep_kept, h.warnings, List.countP_cons]
  ordered := by simpa [keep_kept] using h.ordered
  distinct hdedup := by
    rw [keep_kept, Array.toList_push, ← List.concat_eq_append]
    exact (h.distinct hdedup).concat (hnew hdedup)
  bounded hlimit := by
    have hle := h.bounded hlimit
    rw [keep_errors]
    split
    · next herror =>
      have hfree := hroom herror
      simp only [Full, h.configured, ← h.errors, not_and] at hfree
      have := hfree hlimit
      omega
    · exact hle
  suppressed := by rw [keep_suppressed, hlate, h.suppressed]
  failure := by
    have hold := h.failure
    rw [failure?_isSome_iff] at hold
    rw [failure?_isSome_iff, exists_isError_concat, ← hold, keep_errors, keep_suppressed]
    split
    · next herror =>
      simp only [herror, or_true, iff_true]
      omega
    · next herror => simp [herror]

theorem offer {ds : List Diagnostic} (h : ((fresh config).offerAll ds).Accounts config ds)
    (d : Diagnostic) :
    (((fresh config).offerAll ds).offer d).2.Accounts config (ds ++ [d]) := by
  have hlate := lateErrors_concat config ds d
  simp only [← h.limitReached_iff] at hlate
  generalize (fresh config).offerAll ds = q at h hlate ⊢
  rcases q.offer_cases d with ⟨hd, heq⟩ | ⟨hd, hrepeat, heq⟩ | ⟨hd, hnew, heq⟩
  · rw [heq]
    exact h.suppress hd.1 (by rw [hlate, if_pos hd])
  · rw [heq]
    exact h.drop ((q.isRepeat_iff d).1 hrepeat).2 (by rw [hlate, if_neg hd, Nat.add_zero])
  · rw [heq]
    refine h.keep (fun hdedup hkept => hnew ?_) (fun herror hfull => hd ?_)
      (by rw [hlate, if_neg hd, Nat.add_zero])
    · rw [isRepeat_iff, h.configured]
      exact ⟨hdedup, hkept⟩
    · exact ⟨herror, h.limitReached_iff.2 hfull⟩

end Accounts

theorem accounts_offerAll (config : QueueConfig) (ds : List Diagnostic) :
    ((fresh config).offerAll ds).Accounts config ds := by
  induction ds using List.reverseRecOn with
  | nil => exact .start config
  | append_singleton ds d ih =>
    rw [offerAll_concat]
    exact ih.offer d

/-! ## Calls -/

/-- A call to a queue. -/
inductive Call where
  | add (d : Diagnostic)
  | extend (ds : List Diagnostic)
  | flush
deriving DecidableEq, Repr

/-- The queue after a call. -/
def perform (q : Queue) : Call → Queue
  | .add d => (q.offer d).2
  | .extend ds => q.offerAll ds
  | .flush => q.flush.2

/-- The queue after several calls. -/
def performAll (q : Queue) (calls : List Call) : Queue :=
  calls.foldl perform q

/-- What has been offered since the last flush after a call, by what had been before it. -/
def Call.offeredAfter (before : List Diagnostic) : Call → List Diagnostic
  | .add d => before ++ [d]
  | .extend ds => before ++ ds
  | .flush => []

/-- What several calls offer after the last flush among them. -/
def offeredBy (calls : List Call) : List Diagnostic :=
  calls.foldl Call.offeredAfter []

theorem performAll_concat (q : Queue) (calls : List Call) (c : Call) :
    q.performAll (calls ++ [c]) = (q.performAll calls).perform c := by
  simp [performAll]

theorem offeredBy_concat (calls : List Call) (c : Call) :
    offeredBy (calls ++ [c]) = c.offeredAfter (offeredBy calls) := by
  simp [offeredBy]

/-- Only what was offered since the last flush matters. -/
theorem performAll_eq_offerAll (config : QueueConfig) (calls : List Call) :
    (fresh config).performAll calls = (fresh config).offerAll (offeredBy calls) := by
  induction calls using List.reverseRecOn with
  | nil => rfl
  | append_singleton calls c ih =>
    rw [performAll_concat, offeredBy_concat, ih]
    cases c with
    | add d => exact (offerAll_concat _ _ d).symm
    | extend ds => exact (offerAll_append _ _ ds).symm
    | flush => exact congrArg fresh (accounts_offerAll config _).configured

/-- **The accounts of a queue.** However it is configured and whatever the calls were, the counts
are those of what is kept, repeats are dropped and the limit is held where the configuration says
so, and every error offered since the last flush shows in the notice of failure. A flush then hands
out what is kept, in the order of the places and without a change among what stands at one place,
and leaves the queue as configured. -/
theorem accounts_performAll (config : QueueConfig) (calls : List Call) :
    let q := (fresh config).performAll calls
    q.Accounts config (offeredBy calls) ∧ q.flush.1.Perm q.kept.toList ∧
      Diagnostic.StablySorted q.kept.toList q.flush.1 ∧ q.flush.2 = fresh config := by
  intro q
  have haccounts : q.Accounts config (offeredBy calls) := by
    rw [show q = _ from performAll_eq_offerAll config calls]
    exact accounts_offerAll config _
  exact ⟨haccounts, Diagnostic.sortByPlace_perm _, Diagnostic.stablySorted_sortByPlace _,
    congrArg fresh haccounts.configured⟩

end SchemaTypes.Queue
