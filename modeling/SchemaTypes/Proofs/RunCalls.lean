/-
Calls to a run, one after the other, and its replies to them.

The memo is the only thing that a call changes in a run, and no reply shows
it: a check reports what `freshCheck` says and a table of resolved fields has
what `freshTable` says, wherever in the run they are asked for
(`Reached.perform_eq`). So a run gives the replies of fresh runs, in whatever
order it is asked and whichever memo it started with
(`Reached.exists_performAll`).
-/
import SchemaTypes.Proofs.FreshTable
import SchemaTypes.Proofs.Verdict

namespace SchemaTypes.Run

/-- What a run can be asked for. -/
inductive Call where
  | check
  | resolvedFields
deriving DecidableEq, Repr

inductive Reply where
  | report (report : Report)
  /-- Every field with the descriptor of its type. -/
  | fields (entries : List (FieldId × Option Descriptor))
deriving DecidableEq, Repr

/-- The reply to a call, and the run after it. -/
def perform (r : Run) : Call → Option (Reply × Run)
  | .check => r.check.map fun (report, r) => (.report report, r)
  | .resolvedFields => r.resolvedFields.map fun (entries, r) => (.fields entries, r)

/-- The replies to several calls, in their order, and the run after them. -/
def performAll : Run → List Call → Option (List Reply × Run)
  | r, [] => some ([], r)
  | r, c :: calls => do
    let (reply, r) ← r.perform c
    let (replies, r) ← performAll r calls
    pure (reply :: replies, r)

/-- The reply to a call without a memo. -/
def freshReply (s : Schema) (checkLengths : Bool) : Call → Option Reply
  | .check => (s.freshCheck checkLengths).map .report
  | .resolvedFields => s.freshTable.map .fields

variable {s : Schema} {checkLengths : Bool} {r r' : Run}

theorem exists_freshReply (h : s.WellFormed) (checkLengths : Bool) (c : Call) :
    ∃ reply, freshReply s checkLengths c = some reply := by
  cases c with
  | check =>
    obtain ⟨findings, hfindings, -⟩ := h.freshFindings_tells checkLengths
    obtain ⟨failures, hfailures, -⟩ := h.closed.typedefFailures_tells
    exact ⟨_, by simp [freshReply, Schema.freshCheck, hfindings, hfailures]; rfl⟩
  | resolvedFields =>
    obtain ⟨entries, -, hentries, -⟩ := h.closed.exists_table
    exact ⟨.fields entries, by rw [freshReply, hentries]; rfl⟩

namespace Reached

/-! ## One call -/

theorem perform (hr : Reached s checkLengths r) {c : Call} {reply : Reply}
    (hcall : r.perform c = some (reply, r')) : Reached s checkLengths r' := by
  cases c with
  | check =>
    obtain ⟨⟨report, r₁⟩, hcheck, hpair⟩ := Option.map_eq_some_iff.1 hcall
    obtain ⟨-, rfl⟩ := Prod.mk.inj hpair
    exact .check hr hcheck
  | resolvedFields =>
    obtain ⟨⟨entries, r₁⟩, htable, hpair⟩ := Option.map_eq_some_iff.1 hcall
    obtain ⟨-, rfl⟩ := Prod.mk.inj hpair
    exact .resolvedFields hr htable

/-- The reply does not depend on what the run was asked before. -/
theorem perform_eq (h : s.Closed) (hr : Reached s checkLengths r) (c : Call) :
    ∃ r', r.perform c = (freshReply s checkLengths c).map (·, r') := by
  cases c with
  | check =>
    obtain ⟨r', hcheck⟩ := hr.check_eq h
    exact ⟨r', by simp [Run.perform, freshReply, hcheck, Function.comp_def]⟩
  | resolvedFields =>
    obtain ⟨r', htable⟩ := hr.resolvedFields_eq h
    exact ⟨r', by simp [Run.perform, freshReply, htable, Function.comp_def]⟩

theorem exists_perform (h : s.WellFormed) (hr : Reached s checkLengths r) (c : Call) :
    ∃ reply r', freshReply s checkLengths c = some reply ∧ r.perform c = some (reply, r') ∧
      Reached s checkLengths r' := by
  obtain ⟨reply, hreply⟩ := exists_freshReply h checkLengths c
  obtain ⟨r', hcall⟩ := hr.perform_eq h.closed c
  rw [hreply, Option.map_some] at hcall
  exact ⟨reply, r', hreply, hcall, hr.perform hcall⟩

/-! ## Several calls -/

/-- Every call of a run gets its reply. -/
theorem exists_performAll (h : s.WellFormed) : ∀ (calls : List Call) {r : Run},
    Reached s checkLengths r → ∃ replies r', r.performAll calls = some (replies, r') ∧
      List.Forall₂ (fun c reply => freshReply s checkLengths c = some reply) calls replies
  | [], r, _ => ⟨[], r, rfl, .nil⟩
  | c :: calls, r, hr => by
    obtain ⟨reply, r₁, hreply, hcall, hr₁⟩ := hr.exists_perform h c
    obtain ⟨replies, r₂, hcalls, hreplies⟩ := exists_performAll h calls hr₁
    exact ⟨reply :: replies, r₂, by simp [performAll, hcall, hcalls], .cons hreply hreplies⟩

end Reached

/-- **A run replies as a fresh one.** Whatever memo it is started with, and in whichever order it
is asked for checks and for tables of resolved fields, each call gets a reply, and it is the one
that the first call of a fresh run gets. -/
theorem performAll_replies_fresh (h : s.WellFormed) (m : Memo) (checkLengths : Bool)
    (calls : List Call) :
    ∃ replies r, (startWith s m checkLengths).performAll calls = some (replies, r) ∧
      List.Forall₂ (fun c reply => ∃ r', (start s checkLengths).perform c = some (reply, r'))
        calls replies := by
  have hstart : Reached s checkLengths (startWith s m checkLengths) := .start m
  obtain ⟨replies, r, hcalls, hreplies⟩ := hstart.exists_performAll h calls
  refine ⟨replies, r, hcalls, hreplies.imp fun c reply hreply => ?_⟩
  have hfresh : Reached s checkLengths (start s checkLengths) := .start .empty
  obtain ⟨r', hcall⟩ := hfresh.perform_eq h.closed c
  exact ⟨r', by rw [hcall, hreply, Option.map_some]⟩

/-- A run over the sample that starts with the memo of another schema, where the data type behind
the typedef `A` was a class. -/
theorem performAll_replies_fresh_foreign : Schema.sample.WellFormed ∧
    ∃ replies r, (startWith Schema.sample (Memo.empty.remember ⟨⟨0⟩, none, .object ⟨7⟩⟩)
        true).performAll [.resolvedFields, .check, .check] = some (replies, r) ∧
      List.Forall₂ (fun c reply => ∃ r', (start Schema.sample true).perform c = some (reply, r'))
        [.resolvedFields, .check, .check] replies :=
  ⟨Schema.sample_wellFormed, performAll_replies_fresh Schema.sample_wellFormed _ true _⟩

end SchemaTypes.Run
