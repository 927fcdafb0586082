/-
What a memo may hold of a schema, and that the operations on memos keep it.

`Memo.Sound s followed m` is the invariant inside of a resolution: the marked
data types are those that are being followed, slots and descriptors belong to
each other one by one, every descriptor is the answer for its data type, and
what a remembered typedef stands for is remembered too. Between two calls
nothing is being followed, so `followed` is empty there.

Slots are only ever compared by `slot?`: two memos with equal slots may differ
in the room that they keep for them.
-/
import SchemaTypes.Proofs.TypedefChain

namespace SchemaTypes.Memo

variable {s : Schema} {m m' : Memo} {followed : List DataTypeId} {id y : DataTypeId}

structure Sound (s : Schema) (followed : List DataTypeId) (m : Memo) : Prop where
  /-- Marked is what is being followed, with the typedef that it names. -/
  marked : ∀ {id t}, m.slot? id = some (.inProgress t) ↔ id ∈ followed ∧ s.alias? id = some t
  /-- The place in a slot is that of a descriptor of the same data type. -/
  placed : ∀ {id i}, m.slot? id = some (.resolved i) →
    ∃ d, m.descriptors[i]? = some d ∧ d.origin = id
  /-- The slot of a descriptor's data type has the descriptor's place. -/
  slotted : ∀ {i d}, m.descriptors[i]? = some d → m.slot? d.origin = some (.resolved i)
  right : ∀ d ∈ m.descriptors, s.Answers d.origin (.ok d)
  closed : ∀ d ∈ m.descriptors, ∀ y, s.aliased? d.origin = some y →
    ∃ d' ∈ m.descriptors, d'.origin = y

@[simp]
theorem descriptors_mark (m : Memo) (id : DataTypeId) (t : TypedefId) :
    (m.mark id t).descriptors = m.descriptors := rfl

@[simp]
theorem descriptors_clearSlot (m : Memo) (id : DataTypeId) :
    (m.clearSlot id).descriptors = m.descriptors := rfl

@[simp]
theorem descriptors_remember (m : Memo) (d : Descriptor) :
    (m.remember d).descriptors = m.descriptors.push d := rfl

theorem slot?_empty (id : DataTypeId) : empty.slot? id = none := rfl

/-- A mark on a data type without a slot is nothing to read. -/
theorem get?_mark {t : TypedefId} (hslot : m.slot? id = none) (other : DataTypeId) :
    (m.mark id t).get? other = m.get? other := by
  by_cases h : id = other
  · subst h
    simp [get?, hslot]
  · simp [get?, h]

namespace Sound

theorem empty : Sound s [] Memo.empty where
  marked := by simp [slot?_empty]
  placed := by simp [slot?_empty]
  slotted := by simp [Memo.empty]
  right := by simp [Memo.empty]
  closed := by simp [Memo.empty]

theorem get?_eq_some (h : m.Sound s followed) {d : Descriptor} :
    m.get? id = some d ↔ d ∈ m.descriptors ∧ d.origin = id := by
  constructor
  · intro hget
    unfold get? at hget
    split at hget
    · next i hslot =>
      obtain ⟨d', hd', horigin⟩ := h.placed hslot
      obtain rfl : d = d' := Option.some.inj (hget.symm.trans hd')
      exact ⟨Array.mem_of_getElem? hd', horigin⟩
    · cases hget
  · rintro ⟨hd, rfl⟩
    obtain ⟨i, hi⟩ := Array.mem_iff_getElem?.1 hd
    simp [get?, h.slotted hi, hi]

/-- Along the typedefs from a remembered data type everything is remembered. -/
theorem of_path (h : m.Sound s followed) {d : Descriptor} (hd : d ∈ m.descriptors)
    {xs : List DataTypeId} (hpath : Path s.aliased? d.origin xs y) :
    ∃ d' ∈ m.descriptors, d'.origin = y := by
  generalize hx : d.origin = x at hpath
  induction hpath generalizing d with
  | here => exact ⟨d, hd, hx⟩
  | step link _ ih =>
    subst hx
    obtain ⟨d', hd', horigin⟩ := h.closed d hd _ link
    exact ih hd' horigin

/-- What is followed and what is remembered settles every slot. -/
theorem slot?_congr (h : m.Sound s followed) (h' : m'.Sound s followed)
    (hdescriptors : m'.descriptors = m.descriptors) (id : DataTypeId) :
    m'.slot? id = m.slot? id := by
  have key : ∀ {m m' : Memo}, m.Sound s followed → m'.Sound s followed →
      m'.descriptors = m.descriptors → ∀ slot, m.slot? id = some slot →
      m'.slot? id = some slot := by
    intro m m' h h' hdescriptors slot hslot
    cases slot with
    | inProgress t => exact h'.marked.2 (h.marked.1 hslot)
    | resolved i =>
      obtain ⟨d, hd, rfl⟩ := h.placed hslot
      exact h'.slotted (hdescriptors ▸ hd)
  cases hslot : m.slot? id with
  | some slot => exact key h h' hdescriptors slot hslot
  | none =>
    cases hslot' : m'.slot? id with
    | none => rfl
    | some slot => exact absurd (key h' h hdescriptors.symm slot hslot') (by simp [hslot])

/-! ## The operations -/

theorem mark (h : m.Sound s followed) {t : TypedefId} (hslot : m.slot? id = none)
    (ht : s.alias? id = some t) : (m.mark id t).Sound s (id :: followed) where
  marked {other t'} := by
    by_cases hid : id = other
    · subst hid
      simp [ht]
    · have hother : ¬other = id := fun e => hid e.symm
      simp [hid, hother, h.marked]
  placed {other i} hother := by
    by_cases hid : id = other
    · simp [hid] at hother
    · exact h.placed (by simpa [hid] using hother)
  slotted {i d} hd := by
    have hold := h.slotted hd
    have hid : ¬id = d.origin := fun e => by simp [← e, hslot] at hold
    simpa [hid] using hold
  right := h.right
  closed := h.closed

theorem clearSlot (h : m.Sound s (id :: followed)) {t : TypedefId} (ht : s.alias? id = some t)
    (hid : id ∉ followed) : (m.clearSlot id).Sound s followed where
  marked {other t'} := by
    by_cases he : id = other
    · subst he
      simp [hid]
    · have hother : ¬other = id := fun e => he e.symm
      simp [he, hother, h.marked]
  placed {other i} hother := by
    by_cases he : id = other
    · simp [he] at hother
    · exact h.placed (by simpa [he] using hother)
  slotted {i d} hd := by
    have hold := h.slotted hd
    have he : ¬id = d.origin := fun e => by
      rw [← e, h.marked.2 ⟨List.mem_cons_self, ht⟩] at hold
      cases hold
    simpa [he] using hold
  right := h.right
  closed := h.closed

/-- A data type that names no typedef is never marked, so it may count as being followed. -/
theorem cons_of_alias?_eq_none (h : m.Sound s followed) (hid : s.alias? id = none) :
    m.Sound s (id :: followed) where
  marked {other t} := by
    by_cases he : other = id
    · subst he
      simp [h.marked, hid]
    · simp [h.marked, he]
  placed := h.placed
  slotted := h.slotted
  right := h.right
  closed := h.closed

theorem remember {d : Descriptor} (h : m.Sound s (d.origin :: followed))
    (hfollowed : d.origin ∉ followed) (hnew : ∀ i, m.slot? d.origin ≠ some (.resolved i))
    (hright : s.Answers d.origin (.ok d))
    (hclosed : ∀ y, s.aliased? d.origin = some y → ∃ d' ∈ m.descriptors, d'.origin = y) :
    (m.remember d).Sound s followed where
  marked {other t} := by
    by_cases he : d.origin = other
    · subst he
      simp [hfollowed]
    · have hother : ¬other = d.origin := fun e => he e.symm
      simp [he, hother, h.marked]
  placed {other i} hother := by
    by_cases he : d.origin = other
    · obtain rfl : m.descriptors.size = i := by simpa [he] using hother
      exact ⟨d, by simp, he⟩
    · obtain ⟨d', hd', horigin⟩ := h.placed (by simpa [he] using hother)
      refine ⟨d', ?_, horigin⟩
      have hi := (Array.getElem?_eq_some_iff.1 hd').1
      rw [descriptors_remember, Array.getElem?_push, if_neg (by omega)]
      exact hd'
  slotted {i d'} hd' := by
    rw [descriptors_remember, Array.getElem?_push] at hd'
    split at hd'
    · next hi =>
      obtain rfl : d = d' := by simpa using hd'
      simp [hi]
    · have hold := h.slotted hd'
      have he : ¬d.origin = d'.origin := fun e => hnew i (e ▸ hold)
      simpa [he] using hold
  right d' hd' := by
    rcases Array.mem_push.1 hd' with hd' | rfl
    · exact h.right d' hd'
    · exact hright
  closed d' hd' y hy := by
    have hpush : (∃ d₁ ∈ m.descriptors, d₁.origin = y) →
        ∃ d₁ ∈ (m.remember d).descriptors, d₁.origin = y := fun ⟨d₁, hd₁, horigin⟩ =>
      ⟨d₁, Array.mem_push.2 (.inl hd₁), horigin⟩
    rcases Array.mem_push.1 hd' with hd' | rfl
    · exact hpush (h.closed d' hd' y hy)
    · exact hpush (hclosed y hy)

end Sound

end SchemaTypes.Memo
