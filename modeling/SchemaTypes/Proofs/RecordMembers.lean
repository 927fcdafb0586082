/-
What is taken from a tree, part by part.

A record puts its members in one by one (`Shape.putTree`), so what is taken
from an object is what its members gather, if no key is repeated and no
required member is absent (`taken_object`). The list form of a record is taken
as the object with the members' names in their order (`taken_items`).

Where no two members of a shape touch the same part of the record, the order in
which they are put does not matter (`taken_perm`), and one that puts what the
blank record has may be left out (`taken_omit`).
-/
import SchemaTypes.Proofs.GrammarReading
import Mathlib.Data.List.Nodup
import Mathlib.Data.List.Pairwise

namespace SchemaTypes.Document

open Json (Tree Reading)
open Json.Tree (reading? readings? memberReadings?)

@[simp]
theorem toOption_bind {ε α β : Type} (x : Except ε α) (f : α → Except ε β) :
    (x >>= f).toOption = x.toOption.bind fun a => (f a).toOption := by
  cases x <;> rfl

@[simp]
theorem toOption_map {ε α β : Type} (x : Except ε α) (f : α → β) :
    (x.map f).toOption = x.toOption.map f := by
  cases x <;> rfl

@[simp]
theorem toOption_functor_map {ε α β : Type} (x : Except ε α) (f : α → β) :
    (f <$> x).toOption = x.toOption.map f :=
  toOption_map x f

@[simp]
theorem toOption_throw {ε α : Type} (e : ε) : (throw e : Except ε α).toOption = none := rfl

section Simple

variable {α : Type} (take : Taker α)

theorem taken_map {β : Type} (f : α → β) (t : Tree) :
    taken (fun r => (take r).map f) t = (taken take t).map f := by
  cases h : t.reading? <;> simp [taken, h]

theorem taken_optional {t : Tree} (h : t ≠ .null) :
    taken (takeOptional take) t = (taken take t).map some := by
  have hsome : ∀ r : Reading, r ≠ .null → takeOptional take r = (take r).map some := by
    intro r hr
    rw [takeOptional]
    exact hr
  rw [taken, taken]
  cases hread : t.reading? with
  | none => rfl
  | some r =>
    have hr : r ≠ .null := by
      rintro rfl
      cases t <;> simp [reading?] at hread h
    simp [hsome r hr]

theorem taken_list (ts : List Tree) : taken (takeList take) (.list ts) = ts.mapM (taken take) := by
  have hclosed : ∀ rs, (takeList take (.list rs .closed)).toOption = (rs.mapM take).toOption := by
    intro rs
    rw [takeList]
    cases rs.mapM take <;> rfl
  have hitems : ((readings? ts).bind fun rs => (rs.mapM take).toOption) = ts.mapM (taken take) := by
    induction ts with
    | nil => rfl
    | cons t ts ih =>
      rw [List.mapM_cons, ← ih, readings?, taken]
      cases t.reading? with
      | none => rfl
      | some r =>
        cases readings? ts with
        | none => cases h : (take r).toOption <;> simp [h]
        | some rs =>
          show ((r :: rs).mapM take).toOption = _
          simp only [List.mapM_cons, toOption_bind]
          rfl
  rw [← hitems, taken, reading?, Option.bind_map]
  exact congrArg _ (funext hclosed)

/-- A choice is taken from an object with a single member, by its key. -/
theorem taken_variant (variants : List (Variant α)) (key : String) (t : Tree) :
    taken (takeVariant variants) (.object [(key, t)]) =
      (variants.find? (·.name == key)).bind fun form => taken form.take t := by
  cases hr : t.reading? with
  | none => cases variants.find? (·.name == key) <;> simp [taken, reading?, memberReadings?, hr]
  | some r =>
    have htaken : taken (takeVariant variants) (.object [(key, t)]) =
        (takeVariant variants (.object [(key, r)] .closed)).toOption := by
      simp [taken, reading?, memberReadings?, hr]
    rw [htaken, takeVariant]
    cases variants.find? (·.name == key) with
    | none => rfl
    | some form => simp [taken, hr]

theorem taken_variant_of_ne (variants : List (Variant α)) {entries : List (String × Tree)}
    (h : entries.length ≠ 1) : taken (takeVariant variants) (.object entries) = none := by
  rw [taken, reading?, Option.bind_map]
  cases hrs : memberReadings? entries with
  | none => rfl
  | some rs =>
    rw [Option.bind_some, Function.comp_apply]
    rcases entries with _ | ⟨⟨key, t⟩, _ | ⟨⟨key', t'⟩, entries⟩⟩
    · obtain rfl : [] = rs := by simpa [memberReadings?] using hrs
      rfl
    · cases h rfl
    · obtain ⟨r, -, r', -, rs, -, rfl⟩ : ∃ r, t.reading? = some r ∧ ∃ r', t'.reading? = some r' ∧
          ∃ rs', memberReadings? entries = some rs' ∧ (key, r) :: (key', r') :: rs' = rs := by
        simpa [memberReadings?, Option.bind_eq_some_iff] using hrs
      rw [takeVariant]
      cases variants.find? (·.name == key) with
      | none => rfl
      | some form => simp

end Simple

/-! ## Records -/

namespace Shape

variable {α : Type} (s : Shape α)

/-- A record with one more member put in, or nothing once one was refused. -/
def putTree (record : Option α) (entry : String × Tree) : Option α := do
  let record ← record
  let m ← s.members.find? (·.name == entry.1)
  let r ← entry.2.reading?
  (m.put record r).toOption

/-- The record that members make of the blank one. -/
def gather (entries : List (String × Tree)) : Option α :=
  entries.foldl s.putTree (some s.blank)

/-- No required member is absent. -/
def Complete (keys : List String) : Prop :=
  ∀ m ∈ s.members, m.isRequired → m.name ∈ keys

instance (keys : List String) : Decidable (s.Complete keys) :=
  inferInstanceAs (Decidable (∀ m ∈ s.members, m.isRequired → m.name ∈ keys))

theorem missing?_eq_none_iff (keys : List String) : s.missing? keys = none ↔ s.Complete keys := by
  simp [missing?, Complete]

theorem complete_congr {keys keys' : List String} (h : ∀ k, k ∈ keys ↔ k ∈ keys') :
    s.Complete keys ↔ s.Complete keys' := by
  simp only [Complete, h]

theorem foldl_putTree_none (entries : List (String × Tree)) :
    entries.foldl s.putTree none = none := by
  induction entries with
  | nil => rfl
  | cons e entries ih => exact ih

theorem foldl_putTree_unread {entries : List (String × Tree)}
    (h : memberReadings? entries = none) (record : Option α) :
    entries.foldl s.putTree record = none := by
  induction entries generalizing record with
  | nil => cases h
  | cons e entries ih =>
    obtain ⟨key, t⟩ := e
    rw [List.foldl_cons]
    cases ht : t.reading? with
    | none =>
      have hnone : s.putTree record (key, t) = none := by simp [putTree, ht]
      rw [hnone, foldl_putTree_none]
    | some r =>
      cases hentries : memberReadings? entries with
      | none => exact ih hentries _
      | some rs => simp [memberReadings?, ht, hentries] at h

/-- Putting members into a record goes on as long as no key comes again. -/
theorem toOption_putMembers {entries : List (String × Tree)} {rs : List (String × Reading)}
    (h : memberReadings? entries = some rs) {seen : List String} (hseen : seen.Nodup)
    (record : α) :
    (s.putMembers seen record rs).toOption =
      if ((entries.map (·.1)).reverse ++ seen).Nodup then
        (entries.foldl s.putTree (some record)).map ((entries.map (·.1)).reverse ++ seen, ·)
      else none := by
  induction entries generalizing rs seen record with
  | nil =>
    obtain rfl : [] = rs := by simpa [memberReadings?] using h
    simp [putMembers, Except.toOption, hseen]
  | cons e entries ih =>
    obtain ⟨key, t⟩ := e
    obtain ⟨r, hr, rs, hrs, rfl⟩ : ∃ r, t.reading? = some r ∧ ∃ rs', memberReadings? entries =
        some rs' ∧ (key, r) :: rs' = rs := by
      simpa [memberReadings?, Option.bind_eq_some_iff] using h
    have hkeys : (((key, t) :: entries).map (·.1)).reverse ++ seen =
        (entries.map (·.1)).reverse ++ key :: seen := by simp
    rw [putMembers, List.foldl_cons, hkeys]
    cases hfind : s.members.find? (·.name == key) with
    | none =>
      have hnone : s.putTree (some record) (key, t) = none := by simp [putTree, hfind]
      simp [hnone, foldl_putTree_none, Except.toOption]
    | some m =>
      have hput : s.putTree (some record) (key, t) = (m.put record r).toOption := by
        simp [putTree, hfind, hr]
      rw [hput]
      by_cases hkey : key ∈ seen
      · have hrepeated : ¬((entries.map (·.1)).reverse ++ key :: seen).Nodup := fun hnodup =>
          (List.nodup_cons.1 (List.nodup_append.1 hnodup).2.1).1 hkey
        simp [hkey, hrepeated, Except.toOption]
      · have hseen := List.nodup_cons.2 ⟨hkey, hseen⟩
        cases h : (m.put record r).toOption with
        | none => simp [hkey, h, foldl_putTree_none]
        | some next => simpa [hkey, h] using ih hrs hseen next

/-- **What is taken from an object is what its members gather**, unless a key is repeated or a
required member is absent. -/
theorem taken_object (entries : List (String × Tree)) :
    taken s.take (.object entries) =
      if (entries.map (·.1)).Nodup ∧ s.Complete (entries.map (·.1)) then s.gather entries
      else none := by
  rw [taken, reading?, Option.bind_map]
  cases hrs : memberReadings? entries with
  | none => simp [gather, foldl_putTree_unread s hrs]
  | some rs =>
    have hput := s.toOption_putMembers hrs List.nodup_nil s.blank
    simp only [List.append_nil, List.nodup_reverse] at hput
    have hcomplete : s.missing? (entries.map (·.1)).reverse = none ↔
        s.Complete (entries.map (·.1)) :=
      (s.missing?_eq_none_iff _).trans (s.complete_congr (by simp))
    rw [Option.bind_some, Function.comp_apply, take, toOption_bind, hput]
    by_cases hnodup : (entries.map (·.1)).Nodup
    · cases hgather : entries.foldl s.putTree (some s.blank) with
      | none => simp [gather, hgather]
      | some record =>
        cases hmissing : s.missing? (entries.map (·.1)).reverse with
        | none =>
          have hcomplete := hcomplete.1 hmissing
          simp [gather, hnodup, hcomplete, hgather, hmissing, endObject]
          rfl
        | some name =>
          have hcomplete : ¬s.Complete (entries.map (·.1)) := fun h => by
            rw [hcomplete.2 h] at hmissing
            cases hmissing
          simp [hnodup, hcomplete, hmissing]
    · simp [hnodup]

/-! The list form of a record. -/

theorem toOption_putItems {ms : List (Member α)}
    (hms : ∀ m ∈ ms, s.members.find? (·.name == m.name) = some m) (place : Nat) (record : α)
    (items : List Tree) :
    ((readings? items).bind fun rs => (s.putItems .closed place record ms rs).toOption) =
      if items.length ≤ ms.length ∧ ∀ m ∈ ms.drop items.length, m.isRequired = false then
        ((ms.map (·.name)).zip items).foldl s.putTree (some record)
      else none := by
  induction ms generalizing place record items with
  | nil =>
    cases items with
    | nil => rfl
    | cons t ts =>
      cases hr : t.reading? <;> cases hrs : readings? ts <;>
        simp [readings?, hr, hrs, putItems, endFull, Except.toOption, bind, Except.bind]
  | cons m ms ih =>
    obtain ⟨hm, hms⟩ := List.forall_mem_cons.1 hms
    cases items with
    | nil =>
      simp only [readings?, Option.bind_some, putItems, endOpen, toOption_bind]
      cases hfind : (m :: ms).findIdx? (·.isRequired) with
      | none =>
        have hoptional := List.findIdx?_eq_none_iff.1 hfind
        rw [if_pos ⟨Nat.zero_le _, by simpa using hoptional⟩]
        rfl
      | some i =>
        have hrequired : ¬∀ m' ∈ m :: ms, m'.isRequired = false := fun h => by
          rw [List.findIdx?_eq_none_iff.2 h] at hfind
          cases hfind
        rw [if_neg fun h => hrequired (by simpa using h.2)]
        rfl
    | cons t ts =>
      cases hr : t.reading? with
      | none =>
        have hnone : s.putTree (some record) (m.name, t) = none := by simp [putTree, hr]
        simp [readings?, hr, hnone, foldl_putTree_none]
      | some r =>
        have hput : s.putTree (some record) (m.name, t) = (m.put record r).toOption := by
          simp [putTree, hr, hm]
        cases h : (m.put record r).toOption with
        | none =>
          cases hrs : readings? ts <;>
            simp [readings?, hr, hrs, putItems, hput, h, foldl_putTree_none]
        | some next =>
          simpa [readings?, hr, putItems, hput, h, Option.bind_assoc] using
            ih hms (place + 1) next ts

theorem find?_name (hnames : s.names.Nodup) {m : Member α} (hm : m ∈ s.members) :
    s.members.find? (·.name == m.name) = some m := by
  have hsome : (s.members.find? (·.name == m.name)).isSome :=
    List.find?_isSome.2 ⟨m, hm, beq_self_eq_true _⟩
  obtain ⟨m', hm'⟩ := Option.isSome_iff_exists.1 hsome
  have hname : m'.name = m.name := by simpa using List.find?_some hm'
  rw [hm', List.inj_on_of_nodup_map hnames (List.mem_of_find?_eq_some hm') hm hname]

theorem map_fst_zip_names (names : List String) (items : List Tree) :
    (names.zip items).map (·.1) = names.take items.length := by
  rw [List.zip_eq_zip_take_min, List.map_fst_zip (by simp), List.take_eq_take_iff]
  omega

/-- The members at the first places are complete if all others are optional. -/
theorem complete_take_iff (hnames : s.names.Nodup) (n : Nat) :
    s.Complete (s.names.take n) ↔ ∀ m ∈ s.members.drop n, m.isRequired = false := by
  constructor
  · intro hcomplete m hm
    by_contra hrequired
    have hname := hcomplete m (List.mem_of_mem_drop hm) (by simpa using hrequired)
    have hdrop : m.name ∈ s.names.drop n := by
      rw [names, ← List.map_drop]
      exact List.mem_map_of_mem hm
    exact List.disjoint_take_drop hnames (Nat.le_refl n) hname hdrop
  · intro hoptional m hm hrequired
    rw [← List.take_append_drop n s.members, List.mem_append] at hm
    rcases hm with hm | hm
    · rw [names, ← List.map_take]
      exact List.mem_map_of_mem hm
    · simp [hoptional m hm] at hrequired

/-- **A list of members in their order is taken as the object with their names.** -/
theorem taken_items (hnames : s.names.Nodup) (items : List Tree) :
    taken s.take (.list items) =
      if items.length ≤ s.members.length then taken s.take (.object (s.names.zip items))
      else none := by
  have hput := s.toOption_putItems (fun m hm => s.find?_name hnames hm) 0 s.blank items
  have htaken : taken s.take (.list items) =
      (readings? items).bind fun rs =>
        (s.putItems .closed 0 s.blank s.members rs).toOption := by
    rw [taken, reading?, Option.bind_map]
    rfl
  have hnodup : (s.names.take items.length).Nodup := hnames.sublist (List.take_sublist ..)
  rw [htaken, hput, taken_object, map_fst_zip_names]
  simp only [hnodup, s.complete_take_iff hnames, true_and, ite_and]
  rfl

end Shape

/-! ## The order of members -/

/-- Which of two members is put first does not matter. -/
def Member.Commutes {α : Type} (m m' : Member α) : Prop :=
  ∀ record r r',
    ((m.put record r).toOption.bind fun record => (m'.put record r').toOption) =
      (m'.put record r').toOption.bind fun record => (m.put record r).toOption

theorem Member.commutes_of_set {α β γ : Type} {m m' : Member α} {take : Taker β}
    {take' : Taker γ} {set : α → β → α} {set' : α → γ → α}
    (hm : ∀ record r, m.put record r = (take r).map (set record))
    (hm' : ∀ record r, m'.put record r = (take' r).map (set' record))
    (hset : ∀ record b c, set' (set record b) c = set (set' record c) b) : m.Commutes m' := by
  intro record r r'
  simp only [hm, hm', toOption_map]
  cases (take r).toOption <;> cases (take' r').toOption <;> simp [hset]

namespace Shape

variable {α : Type} {s : Shape α}

/-- The members have different names, and no two of them touch the same part of a record. -/
structure Independent (s : Shape α) : Prop where
  names : s.names.Nodup
  commutes : s.members.Pairwise Member.Commutes

theorem Independent.member_commutes (hs : s.Independent) {m m' : Member α} (hm : m ∈ s.members)
    (hm' : m' ∈ s.members) (hne : m.name ≠ m'.name) : m.Commutes m' := by
  have hsymm : Std.Symm (Member.Commutes (α := α)) :=
    ⟨fun m m' h record r r' => (h record r' r).symm⟩
  exact hs.commutes.forall hm hm' fun heq => hne (congrArg Member.name heq)

theorem Independent.putTree_comm (hs : s.Independent) {e e' : String × Tree} (hne : e.1 ≠ e'.1)
    (record : Option α) :
    s.putTree (s.putTree record e) e' = s.putTree (s.putTree record e') e := by
  have hnone : ∀ e, s.putTree none e = none := fun _ => rfl
  cases record with
  | none => rfl
  | some record =>
    cases hm : s.members.find? (·.name == e.1) with
    | none =>
      have hrefused : ∀ record, s.putTree record e = none := by simp [putTree, hm]
      rw [hrefused, hrefused, hnone]
    | some m =>
      cases hm' : s.members.find? (·.name == e'.1) with
      | none =>
        have hrefused : ∀ record, s.putTree record e' = none := by simp [putTree, hm']
        rw [hrefused, hrefused, hnone]
      | some m' =>
        have hname : m.name = e.1 := by simpa using List.find?_some hm
        have hname' : m'.name = e'.1 := by simpa using List.find?_some hm'
        have hcomm := hs.member_commutes (List.mem_of_find?_eq_some hm)
          (List.mem_of_find?_eq_some hm') (by rwa [hname, hname'])
        cases hr : e.2.reading? <;> cases hr' : e'.2.reading? <;>
          simp [putTree, hm, hm', hr, hr', hcomm record _ _]

theorem Independent.gather_perm (hs : s.Independent) {entries entries' : List (String × Tree)}
    (h : entries.Perm entries') (hkeys : (entries.map (·.1)).Nodup) :
    s.gather entries = s.gather entries' := by
  refine h.foldl_eq' (fun e he e' he' record => ?_) _
  by_cases hne : e.1 = e'.1
  · rw [List.inj_on_of_nodup_map hkeys he he' hne]
  · exact hs.putTree_comm hne record

/-- The order of an object's members does not matter. -/
theorem Independent.taken_perm (hs : s.Independent) {entries entries' : List (String × Tree)}
    (h : entries.Perm entries') :
    taken s.take (.object entries) = taken s.take (.object entries') := by
  have hkeys := h.map (·.1)
  rw [taken_object, taken_object]
  simp only [hkeys.nodup_iff, s.complete_congr fun k => hkeys.mem_iff]
  split_ifs with hcond
  · exact hs.gather_perm h (hkeys.nodup_iff.2 hcond.1)
  · rfl

/-! ## Single members -/

/-- A member is put into a record if something can be taken for it. -/
theorem putTree_of_put {β : Type} {take : Taker β} {set : α → β → α} {m : Member α}
    (hnames : s.names.Nodup) (hm : m ∈ s.members)
    (hput : ∀ record r, m.put record r = (take r).map (set record)) (record : Option α)
    (t : Tree) :
    s.putTree record (m.name, t) = record.bind fun record => (taken take t).map (set record) := by
  cases record with
  | none => rfl
  | some record =>
    cases hr : t.reading? <;> simp [putTree, s.find?_name hnames hm, hput, taken, hr]

/-- A member may be replaced by one that is put alike. -/
theorem taken_member {k : String} {a b : Tree}
    (h : ∀ record, s.putTree record (k, a) = s.putTree record (k, b))
    (before after : List (String × Tree)) :
    taken s.take (.object (before ++ (k, a) :: after)) =
      taken s.take (.object (before ++ (k, b) :: after)) := by
  simp only [taken_object, gather, List.map_append, List.map_cons, List.foldl_append,
    List.foldl_cons, h]

/-- An optional member may be left out if it puts what the blank record has. -/
theorem taken_omit (hnames : s.names.Nodup) {m : Member α} (hm : m ∈ s.members)
    (hoptional : m.isRequired = false) {t : Tree}
    (ht : s.putTree (some s.blank) (m.name, t) = some s.blank) {entries : List (String × Tree)}
    (habsent : m.name ∉ entries.map (·.1)) :
    taken s.take (.object ((m.name, t) :: entries)) = taken s.take (.object entries) := by
  have hcomplete : s.Complete (m.name :: entries.map (·.1)) ↔ s.Complete (entries.map (·.1)) := by
    constructor
    · intro h m' hm' hrequired
      refine (List.mem_cons.1 (h m' hm' hrequired)).resolve_left fun hname => ?_
      rw [List.inj_on_of_nodup_map hnames hm' hm hname, hoptional] at hrequired
      cases hrequired
    · exact fun h m' hm' hrequired => List.mem_cons_of_mem _ (h m' hm' hrequired)
  simp only [taken_object, List.map_cons, List.nodup_cons, habsent, not_false_eq_true, true_and,
    hcomplete, gather, List.foldl_cons, ht]

end Shape

end SchemaTypes.Document
