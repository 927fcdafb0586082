/-
What is shown of the steps of a loader: under which condition a step succeeds
and what holds afterwards, and that a failing step never blames the draft.

`Outcome` puts the three together, so that each loop and each pass is one
lemma put together from those of its steps (`bind`, `foldlM`).
-/
import SchemaTypes.Proofs.DocumentMeaning

namespace SchemaTypes.Document

/-- `Outcome accepted post x`: `x` succeeds if `accepted` holds, and then with a value that has
`post`; else it fails, with a fault that is not one of the draft. -/
inductive Outcome {α : Type} (accepted : Prop) (post : α → Prop) : Except LoadFault α → Prop
  | ok {a : α} (h : accepted) (ha : post a) : Outcome accepted post (.ok a)
  | error {f : LoadFault} (h : ¬accepted) (hf : ∀ g, f ≠ .draft g) :
    Outcome accepted post (.error f)

namespace Outcome

variable {α β σ : Type} {accepted accepted' : Prop} {post : α → Prop} {post' : β → Prop}
  {x : Except LoadFault α}

theorem ok_iff (h : Outcome accepted post x) : (∃ a, x = .ok a) ↔ accepted := by
  cases h with
  | ok h => simp [h]
  | error h => simp [h]

theorem post_of_ok (h : Outcome accepted post x) {a : α} (hx : x = .ok a) : post a := by
  subst hx
  cases h with
  | ok _ ha => exact ha

theorem not_draft (h : Outcome accepted post x) (f : DraftFault) : x ≠ .error (.draft f) := by
  cases h with
  | ok => simp
  | error _ hf => simpa using hf f

theorem congr (h : Outcome accepted post x) (hiff : accepted ↔ accepted') :
    Outcome accepted' post x := by
  rwa [← hiff]

theorem imp {post' : α → Prop} (h : Outcome accepted post x)
    (himp : ∀ a, accepted → post a → post' a) : Outcome accepted post' x := by
  cases h with
  | ok h ha => exact .ok h (himp _ h ha)
  | error h hf => exact .error h hf

theorem bind {f : α → Except LoadFault β} (h : Outcome accepted post x)
    (hf : ∀ a, accepted → post a → Outcome accepted' post' (f a)) :
    Outcome (accepted ∧ accepted') post' (x >>= f) := by
  cases h with
  | error h hfault => exact .error (fun hboth => h hboth.1) hfault
  | @ok a h ha =>
    have hnext := hf a h ha
    show Outcome _ _ (f a)
    generalize f a = y at hnext
    cases hnext with
    | ok h' hb => exact .ok ⟨h, h'⟩ hb
    | error h' hfault => exact .error (fun hboth => h' hboth.2) hfault

/-- What follows may use the value and no longer fails. -/
theorem map {f : α → Except LoadFault β} (h : Outcome accepted post x)
    (hf : ∀ a, post a → ∃ b, f a = .ok b ∧ post' b) : Outcome accepted post' (x >>= f) := by
  cases h with
  | error h hfault => exact .error h hfault
  | @ok a h ha =>
    obtain ⟨b, hb, hpost⟩ := hf a ha
    show Outcome _ _ (f a)
    rw [hb]
    exact .ok h hpost

/-- A loop succeeds if the condition holds of the whole list. The condition may look back: it
speaks of the elements so far, and fails from the first one on at which it fails. -/
theorem foldlM {f : σ → α → Except LoadFault σ} {xs : List α} {start : σ}
    (accepted : List α → Prop) (inv : List α → σ → Prop)
    (hback : ∀ done x, accepted (done ++ [x]) → accepted done) (hempty : accepted [])
    (hstart : inv [] start)
    (hstep : ∀ done x rest s, xs = done ++ x :: rest → accepted done → inv done s →
      Outcome (accepted (done ++ [x])) (inv (done ++ [x])) (f s x)) :
    Outcome (accepted xs) (inv xs) (xs.foldlM f start) := by
  have hprefix : ∀ done rest, xs = done ++ rest →
      Outcome (accepted done) (inv done) (done.foldlM f start) := by
    intro done
    induction done using List.reverseRecOn with
    | nil => exact fun _ _ => .ok hempty hstart
    | append_singleton done x ih =>
      intro rest hxs
      rw [List.append_assoc, List.singleton_append] at hxs
      rw [List.foldlM_append]
      refine ((ih _ hxs).bind fun s hdone hs => ?_).congr
        (and_iff_right_of_imp (hback done x))
      simpa using hstep done x rest s hxs hdone hs
  exact hprefix xs [] (List.append_nil xs).symm

end Outcome

/-! ## Settings -/

section Settings

theorem settingOf_outcome {α : Type} [Setting α] [LawfulSetting α] (key : String)
    (word : Option String) :
    Outcome (IsKeyword α word) (Says word) (settingOf (α := α) key word) := by
  cases word with
  | none => exact .ok (by simp [IsKeyword]) says_none
  | some w =>
    cases hparse : Setting.parse? (α := α) w with
    | some v =>
      have hsetting : settingOf key (some w) = .ok (some v) := by simp [settingOf, hparse]
      rw [hsetting]
      exact .ok (isKeyword_some_iff.2 ⟨v, hparse⟩) (says_some hparse)
    | none =>
      have hsetting : settingOf (α := α) key (some w) = .error (.invalidSetting key w) := by
        simp [settingOf, hparse]
      rw [hsetting]
      refine .error (fun h => ?_) (by simp)
      obtain ⟨v, hv⟩ := isKeyword_some_iff.1 h
      rw [hparse] at hv
      cases hv

theorem defaultsOf_outcome (p : DefaultsPart) :
    Outcome p.Acceptable p.Means (defaultsOf p) := by
  rw [DefaultsPart.acceptable_iff]
  unfold defaultsOf
  refine (settingOf_outcome _ _).bind fun visibility _ hvisibility => ?_
  refine (settingOf_outcome _ _).bind fun primitiveUse _ hprimitiveUse => ?_
  refine (settingOf_outcome _ _).bind fun signedness _ hsignedness => ?_
  refine (settingOf_outcome _ _).bind fun trimming _ htrimming => ?_
  refine (settingOf_outcome _ _).bind fun controlChars _ hcontrolChars => ?_
  refine (settingOf_outcome _ _).map fun required hrequired => ?_
  exact ⟨_, rfl, hvisibility, hprimitiveUse, hsignedness, htrimming, hcontrolChars, hrequired⟩

end Settings

/-! ## Directories -/

/-- A directory knows the names in a list, each with the handle of its first place. -/
def Knows {α : Type} (dir : Directory α) (mk : Nat → α) (names : List QualifiedName) : Prop :=
  ∀ key, dir.get? key = (names.idxOf? key).map mk

namespace Knows

variable {α : Type} {dir : Directory α} {mk : Nat → α} {names : List QualifiedName}

theorem empty : Knows Directory.empty mk [] := by
  intro key
  simp

theorem insert (h : Knows dir mk names) {key : QualifiedName} (hkey : key ∉ names) :
    Knows (dir.insert key (mk names.length)) mk (names ++ [key]) := by
  intro other
  have happend : (names ++ [key]).idxOf? other =
      (names.idxOf? other).or (if key = other then some names.length else none) := by
    rw [List.idxOf?, List.findIdx?_append, List.findIdx?_singleton]
    by_cases hother : key = other <;> simp [hother]
  rw [Directory.get?_insert, h other, happend]
  by_cases hother : key = other
  · subst hother
    simp [List.idxOf?_eq_none_iff.2 hkey]
  · simp [hother]

theorem get?_isSome_iff (h : Knows dir mk names) {key : QualifiedName} :
    (dir.get? key).isSome ↔ key ∈ names := by
  rw [h key, Option.isSome_map, List.isSome_idxOf?]

theorem enter_outcome (h : Knows dir mk names) (kind : DeclKind) (key : QualifiedName) :
    Outcome (key ∉ names) (fun dir' => Knows dir' mk (names ++ [key]))
      (enter kind dir key (mk names.length)) := by
  unfold enter
  split
  · next hsome => exact .error (not_not_intro (h.get?_isSome_iff.1 hsome)) (by simp)
  · next hnone =>
    have hkey : key ∉ names := fun hmem => hnone (h.get?_isSome_iff.2 hmem)
    exact .ok hkey (h.insert hkey)

theorem follow_outcome (h : Knows dir mk names) (kind : DeclKind) (around reference : String) :
    Outcome (.ofReference around reference ∈ names)
      (fun id => (names.idxOf? (.ofReference around reference)).map mk = some id)
      (Loader.follow kind dir around reference) := by
  unfold Loader.follow
  split
  · next id hid => exact .ok (h.get?_isSome_iff.1 (by simp [hid])) (h _ ▸ hid)
  · next hnone =>
    refine .error (fun hmem => ?_) (by simp)
    have := h.get?_isSome_iff.2 hmem
    simp [hnone] at this

/-- A declaration is found again by its name, read as a reference, if the name has no dot. -/
theorem find_outcome {β : Type} {xs : List (Placed β)} {name : β → String}
    (h : Knows dir mk (xs.map (·.qualified name))) (hnames : (xs.map (·.qualified name)).Nodup)
    {i : Nat} {x : Placed β} (hx : xs[i]? = some x)
    (hname : '.' ∈ (name x.part).toList →
      .ofReference x.around (name x.part) ∉ xs.map (·.qualified name)) {kind : DeclKind} :
    Outcome ('.' ∉ (name x.part).toList) (· = mk i)
      (Loader.follow kind dir x.around (name x.part)) := by
  have hfound (hdot : '.' ∉ (name x.part).toList) :
      (xs.map (·.qualified name)).idxOf? (.ofReference x.around (name x.part)) = some i := by
    rw [ofReference_of_dotless hdot]
    exact (idxOf?_qualified_iff hnames).2 ⟨x, hx, rfl⟩
  have hiff : .ofReference x.around (name x.part) ∈ xs.map (·.qualified name) ↔
      '.' ∉ (name x.part).toList := by
    refine ⟨fun hmem hdot => hname hdot hmem, fun hdot => ?_⟩
    rw [← List.isSome_idxOf?, hfound hdot, Option.isSome_some]
  refine ((h.follow_outcome kind x.around (name x.part)).congr hiff).imp fun id hdot hid => ?_
  rw [hfound hdot] at hid
  exact (Option.some.inj hid).symm

end Knows

end SchemaTypes.Document
