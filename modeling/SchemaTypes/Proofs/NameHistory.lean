/-
Calls to a name table, one after the other, and what they answer.

The table is the only state, and only `intern` changes it. What holds after any
calls is told by the log of these calls and their answers (`Faithful`): a name
has a number if it is empty or was interned, and then it has the number that
was answered. With the two tables inverse to each other the rest follows, for
the final table as for the answer to each call (`Faithful.answers`).
-/
import SchemaTypes.NameTable
import Mathlib.Data.Finset.Card
import Mathlib.Data.List.Induction

namespace SchemaTypes.NameTable

/-! ## Calls -/

/-- A call to a name table. -/
inductive Call where
  | intern (s : String)
  /-- Asks for the number of a name. -/
  | number (s : String)
  /-- Asks for the name with a number. -/
  | text (n : Nat)
deriving DecidableEq, Repr

/-- What a call answers. -/
inductive Reply where
  | interned (n : Nat)
  | number (n : Option Nat)
  | text (s : String)
deriving DecidableEq, Repr

/-- The reply to a call, and the table after it. -/
def perform (t : NameTable) : Call → Reply × NameTable
  | .intern s => (.interned (t.intern s).1, (t.intern s).2)
  | .number s => (.number (t.number? s), t)
  | .text n => (.text (t.text n), t)

/-- Calls with their replies, in the order in which they were made. -/
abbrev Log := List (Call × Reply)

/-- A table with the log of its calls. -/
structure Session where
  table : NameTable := .empty
  log : Log := []

def Session.perform (x : Session) (c : Call) : Session where
  table := (x.table.perform c).2
  log := x.log ++ [(c, (x.table.perform c).1)]

/-- The session of several calls to a new table. -/
def session (calls : List Call) : Session :=
  calls.foldl Session.perform {}

theorem session_concat (calls : List Call) (c : Call) :
    session (calls ++ [c]) = (session calls).perform c := by
  simp [session]

/-- The names that calls intern. -/
def internedBy (calls : List Call) : List String :=
  calls.filterMap fun
    | .intern s => some s
    | _ => none

/-! ## What the log tells -/

/-- A name was interned and given a number. -/
def Interned (log : Log) (s : String) (n : Nat) : Prop :=
  (.intern s, .interned n) ∈ log

/-- How a call is to be answered after others. A name that is interned gets a number that no
other name has. -/
def Answers (before : Log) : Call → Reply → Prop
  | .intern s, .interned n =>
    (n = 0 ↔ s = "") ∧ ∀ u m, Interned before u m → (m = n ↔ u = s)
  | .number s, .number n? => ∀ n, n? = some n ↔ s = "" ∧ n = 0 ∨ Interned before s n
  | .text n, .text s =>
    (∀ u, Interned before u n → s = u) ∧ ((∀ u, ¬Interned before u n) → s = "")
  | _, _ => False

/-- A table is what a log says. -/
structure Faithful (log : Log) (t : NameTable) : Prop where
  agrees : t.Agrees
  /-- The names with a number are the empty one and those that were interned. -/
  known : ∀ s n, t.number? s = some n ↔ s = "" ∧ n = 0 ∨ Interned log s n

/-- What holds of a table after any calls, and of the answers on the way. -/
structure History (calls : List Call) (x : Session) : Prop where
  logged : x.log.map (·.1) = calls
  answers : ∀ before c r after, x.log = before ++ (c, r) :: after → Answers before c r
  agrees : x.table.Agrees
  /-- The numbers given out are those below the size. -/
  numbers : ∀ n, (∃ s, x.table.number? s = some n) ↔ n < x.table.size
  empty : x.table.number? "" = some 0
  known : ∀ s n, x.table.number? s = some n ↔ s = "" ∧ n = 0 ∨ Interned x.log s n
  distinct : ∀ s u m n, Interned x.log s m → Interned x.log u n → (m = n ↔ s = u)
  /-- A number answered once stands for its name for good. -/
  kept : ∀ s n, Interned x.log s n → x.table.text n = s
  unknown : ∀ n, (∀ s, ¬Interned x.log s n) → x.table.text n = ""
  size : x.table.size = 1 + ((internedBy calls).toFinset.erase "").card

/-! ## Tables that agree -/

theorem intern_of_number? {t : NameTable} {s : String} {n : Nat} (hs : t.number? s = some n) :
    t.intern s = (n, t) := by
  simp [intern, hs]

theorem number?_intern (t : NameTable) (s : String) :
    (t.intern s).2.number? s = some (t.intern s).1 := by
  unfold intern
  cases hs : t.number? s with
  | some n => exact hs
  | none => simp [number?]

theorem number?_intern_of_ne (t : NameTable) {s u : String} (hne : s ≠ u) :
    (t.intern s).2.number? u = t.number? u := by
  unfold intern
  cases hs : t.number? s with
  | some n => rfl
  | none => simp [number?, Std.TreeMap.getElem?_insert, hne]

namespace Agrees

variable {t : NameTable} {s u : String} {m n : Nat}

theorem lt_size_iff (h : t.Agrees) (n : Nat) : (∃ s, t.number? s = some n) ↔ n < t.size := by
  simp only [h _ _]
  constructor
  · intro ⟨s, hs⟩
    exact (Array.getElem?_eq_some_iff.1 hs).1
  · intro hn
    exact ⟨t.texts[n], Array.getElem?_eq_getElem hn⟩

theorem eq_iff (h : t.Agrees) (hs : t.number? s = some m) (hu : t.number? u = some n) :
    m = n ↔ s = u := by
  constructor
  · intro hmn
    subst hmn
    exact Option.some.inj (((h s m).1 hs).symm.trans ((h u m).1 hu))
  · intro hsu
    subst hsu
    exact Option.some.inj (hs.symm.trans hu)

theorem text_of_number? (h : t.Agrees) (hs : t.number? s = some n) : t.text n = s := by
  simp [text, (h s n).1 hs]

theorem mem_toList_iff (h : t.Agrees) (s : String) : s ∈ t.toList ↔ ∃ n, t.number? s = some n := by
  simp only [toList, Array.mem_toList_iff, Array.mem_iff_getElem?, h s]

theorem nodup_toList (h : t.Agrees) : t.toList.Nodup := by
  rw [List.nodup_iff_getElem?_ne_getElem?]
  intro i j hij hj hsame
  have hi : i < t.texts.size := by
    simp only [toList, Array.length_toList] at hj
    omega
  simp only [toList, Array.getElem?_toList, Array.getElem?_eq_getElem hi] at hsame
  have hnumber := (h _ _).2 (Array.getElem?_eq_getElem hi)
  have hnumber' := (h _ _).2 hsame.symm
  have := Option.some.inj (hnumber.symm.trans hnumber')
  omega

end Agrees

/-! ## One call -/

namespace Faithful

variable {log : Log} {t : NameTable} {s u : String} {m n : Nat}

theorem start : Faithful [] empty where
  agrees := agrees_empty
  known s n := by
    rw [agrees_empty s n]
    cases n <;> simp [empty, Interned, eq_comm]

theorem empty_number (h : Faithful log t) : t.number? "" = some 0 :=
  (h.known "" 0).2 (.inl ⟨rfl, rfl⟩)

theorem number_of_interned (h : Faithful log t) (hs : Interned log s n) : t.number? s = some n :=
  (h.known s n).2 (.inr hs)

theorem text_unknown (h : Faithful log t) (hn : ∀ s, ¬Interned log s n) : t.text n = "" := by
  cases htext : t.texts[n]? with
  | none => simp [text, htext]
  | some s =>
    have hs := (h.agrees s n).2 htext
    rcases (h.known s n).1 hs with ⟨rfl, -⟩ | hs'
    · simp [text, htext]
    · exact absurd hs' (hn s)

/-- A call that interns nothing leaves what the log tells as it was. -/
theorem log_concat (h : Faithful log t) {c : Call} {r : Reply}
    (hc : ∀ s n, (c, r) ≠ (.intern s, .interned n)) : Faithful (log ++ [(c, r)]) t where
  agrees := h.agrees
  known s n := by
    rw [h.known s n]
    simp [Interned, (hc s n).symm]

theorem intern (h : Faithful log t) (s : String) :
    Faithful (log ++ [(.intern s, .interned (t.intern s).1)]) (t.intern s).2 where
  agrees := agrees_intern h.agrees s
  known u n := by
    by_cases hsu : s = u
    · subst hsu
      rw [number?_intern]
      constructor
      · intro hn
        obtain rfl := Option.some.inj hn
        simp [Interned]
      · intro hn
        -- A name that had a number already is answered with it.
        have hold : t.number? s = some n → some (t.intern s).1 = some n :=
          fun hs => by rw [intern_of_number? hs]
        rcases hn with hempty | hn
        · exact hold ((h.known s n).2 (.inl hempty))
        · rcases List.mem_append.1 hn with hn | hn
          · exact hold (h.number_of_interned hn)
          · simpa [eq_comm] using hn
    · rw [number?_intern_of_ne t hsu, h.known u n]
      simp [Interned, Ne.symm hsu]

/-- Each call is answered rightly, and the log with it is still what the table is. -/
theorem perform {x : Session} (h : Faithful x.log x.table) (c : Call) :
    Faithful (x.perform c).log (x.perform c).table ∧ Answers x.log c (x.table.perform c).1 := by
  cases c with
  | intern s =>
    have hnext := h.intern s
    refine ⟨hnext, ?_, fun u m hu => ?_⟩
    · have hs := number?_intern x.table s
      exact hnext.agrees.eq_iff hs hnext.empty_number
    · have hu : Interned (x.log ++ [(.intern s, .interned (x.table.intern s).1)]) u m :=
        List.mem_append_left _ hu
      exact hnext.agrees.eq_iff (hnext.number_of_interned hu) (number?_intern x.table s)
  | number s => exact ⟨h.log_concat (by simp), fun n => h.known s n⟩
  | text n =>
    refine ⟨h.log_concat (by simp), fun u hu => ?_, h.text_unknown⟩
    exact h.agrees.text_of_number? (h.number_of_interned hu)

end Faithful

/-! ## Several calls -/

theorem mem_internedBy_iff {calls : List Call} {s : String} :
    s ∈ internedBy calls ↔ .intern s ∈ calls := by
  simp only [internedBy, List.mem_filterMap]
  constructor
  · intro ⟨c, hc, hs⟩
    cases c with
    | intern u =>
      obtain rfl := Option.some.inj hs
      exact hc
    | number u | text n => cases hs
  · intro hs
    exact ⟨_, hs, rfl⟩

theorem log_session (calls : List Call) : (session calls).log.map (·.1) = calls := by
  induction calls using List.reverseRecOn with
  | nil => rfl
  | append_singleton calls c ih => simp [session_concat, Session.perform, ih]

theorem faithful_session (calls : List Call) :
    Faithful (session calls).log (session calls).table := by
  induction calls using List.reverseRecOn with
  | nil => exact .start
  | append_singleton calls c ih =>
    rw [session_concat]
    exact (ih.perform c).1

theorem answers_session (calls : List Call) {before after : Log} {c : Call} {r : Reply}
    (hlog : (session calls).log = before ++ (c, r) :: after) : Answers before c r := by
  induction calls using List.reverseRecOn generalizing after with
  | nil => simp [session] at hlog
  | append_singleton calls d ih =>
    rw [session_concat] at hlog
    rcases List.eq_nil_or_concat' after with rfl | ⟨after, last, rfl⟩
    · obtain ⟨rfl, heq⟩ := List.append_inj' hlog rfl
      obtain ⟨rfl, rfl⟩ := Prod.mk.inj (List.singleton_inj.1 heq)
      exact ((faithful_session calls).perform d).2
    · rw [← List.cons_append, ← List.append_assoc] at hlog
      exact ih (List.append_inj' hlog rfl).1

theorem exists_interned_iff (calls : List Call) (s : String) :
    (∃ n, Interned (session calls).log s n) ↔ s ∈ internedBy calls := by
  rw [mem_internedBy_iff]
  constructor
  · intro ⟨n, hn⟩
    rw [← log_session calls]
    exact List.mem_map_of_mem hn
  · intro hs
    rw [← log_session calls] at hs
    obtain ⟨⟨_, r⟩, hr, rfl⟩ := List.mem_map.1 hs
    obtain ⟨before, after, hlog⟩ := List.append_of_mem hr
    have hanswer := answers_session calls hlog
    cases r with
    | interned n => exact ⟨n, hr⟩
    | number n | text u => exact hanswer.elim

theorem mem_toList_session (calls : List Call) (s : String) :
    s ∈ (session calls).table.toList ↔ s = "" ∨ s ∈ internedBy calls := by
  have h := faithful_session calls
  rw [h.agrees.mem_toList_iff, ← exists_interned_iff]
  simp only [h.known]
  constructor
  · intro ⟨n, hn⟩
    rcases hn with ⟨hs, -⟩ | hn
    · exact .inl hs
    · exact .inr ⟨n, hn⟩
  · intro hs
    rcases hs with hs | ⟨n, hn⟩
    · exact ⟨0, .inl ⟨hs, rfl⟩⟩
    · exact ⟨n, .inr hn⟩

theorem size_session (calls : List Call) :
    (session calls).table.size = 1 + ((internedBy calls).toFinset.erase "").card := by
  have hnames : (session calls).table.toList.toFinset =
      Insert.insert "" ((internedBy calls).toFinset.erase "") := by
    ext s
    by_cases hs : s = "" <;> simp [mem_toList_session, hs]
  calc (session calls).table.size
      = (session calls).table.toList.length := by simp [size, toList]
    _ = (session calls).table.toList.toFinset.card :=
        (List.toFinset_card_of_nodup (faithful_session calls).agrees.nodup_toList).symm
    _ = 1 + ((internedBy calls).toFinset.erase "").card := by
        rw [hnames, Finset.card_insert_of_notMem (Finset.notMem_erase _ _), Nat.add_comm]

/-- **The two tables stay inverse to each other, whatever is called.** After any calls to a new
table the numbers given out are those below its size, 0 being that of the empty name; two names
were answered with the same number exactly if they are the same; a number answered once stands for
its name for good, and one never answered for the empty name; a name has a number exactly if it is
empty or was interned, and it is the one answered then. The size is one more than the number of
different names that are not empty, and all this held for the answer to each call, too. -/
theorem history_session (calls : List Call) : History calls (session calls) := by
  have h := faithful_session calls
  exact {
    logged := log_session calls
    answers := fun before c r after hlog => answers_session calls hlog
    agrees := h.agrees
    numbers := h.agrees.lt_size_iff
    empty := h.empty_number
    known := h.known
    distinct := fun s u m n hs hu =>
      h.agrees.eq_iff (h.number_of_interned hs) (h.number_of_interned hu)
    kept := fun s n hs => h.agrees.text_of_number? (h.number_of_interned hs)
    unknown := fun n hn => h.text_unknown hn
    size := size_session calls }

/-- Names that repeat, an empty one, and a number that was never given out. -/
example : (session [.intern "b", .text 5, .intern "", .number "a", .intern "b", .intern "a",
      .number "a"]).log.map (·.2) =
    [.interned 1, .text "", .interned 0, .number none, .interned 1, .interned 2,
      .number (some 2)] := by
  decide +kernel

end SchemaTypes.NameTable
