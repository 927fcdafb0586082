/-
Lists and tables whose entries belong together one by one: the declarations of
a document in the order of the text, and those of a schema in their tables.
-/

namespace SchemaTypes.Document

/-- A list and a table of the same length, with their entries related one by one. -/
structure Corresponds {α β : Type} (R : Nat → α → β → Prop) (xs : List α) (ys : Array β) :
    Prop where
  size_eq : ys.size = xs.length
  rel : ∀ i x y, xs[i]? = some x → ys[i]? = some y → R i x y

namespace Corresponds

variable {α β : Type} {R R' : Nat → α → β → Prop} {xs : List α} {ys : Array β}

theorem exists_right (h : Corresponds R xs ys) {i : Nat} {x : α} (hx : xs[i]? = some x) :
    ∃ y, ys[i]? = some y ∧ R i x y := by
  have hlt : i < ys.size := by
    rw [h.size_eq]
    exact (List.getElem?_eq_some_iff.1 hx).1
  exact ⟨_, Array.getElem?_eq_getElem hlt, h.rel i x _ hx (Array.getElem?_eq_getElem hlt)⟩

theorem exists_left (h : Corresponds R xs ys) {i : Nat} {y : β} (hy : ys[i]? = some y) :
    ∃ x, xs[i]? = some x ∧ R i x y := by
  have hlt : i < xs.length := by
    rw [← h.size_eq]
    exact (Array.getElem?_eq_some_iff.1 hy).1
  exact ⟨_, List.getElem?_eq_getElem hlt, h.rel i _ y (List.getElem?_eq_getElem hlt) hy⟩

theorem rel_getElem? (h : Corresponds R xs ys) (i : Nat) : Option.Rel (R i) xs[i]? ys[i]? := by
  cases hx : xs[i]? with
  | some x =>
    obtain ⟨y, hy, hxy⟩ := h.exists_right hx
    exact hy ▸ .some hxy
  | none =>
    cases hy : ys[i]? with
    | none => exact .none
    | some y =>
      obtain ⟨x, hx', -⟩ := h.exists_left hy
      cases hx.symm.trans hx'

/-- What the entries have in common with their partners stands on both sides in the same order. -/
theorem map_eq {γ : Type} {f : α → γ} {g : β → γ} (h : Corresponds R xs ys)
    (hfg : ∀ i x y, R i x y → g y = f x) : ys.toList.map g = xs.map f := by
  refine List.ext_getElem? fun i => ?_
  have hrel := h.rel_getElem? i
  rw [List.getElem?_map, List.getElem?_map, Array.getElem?_toList]
  generalize xs[i]? = x, ys[i]? = y at hrel
  cases hrel with
  | none => rfl
  | some hxy => simp [hfg i _ _ hxy]

theorem nil : Corresponds R [] #[] where
  size_eq := rfl
  rel := by simp

theorem of_map {γ : Type} {zs : List γ} {f : γ → α} {g : γ → β} (hys : ys.toList = zs.map g)
    (hfg : ∀ i z, R i (f z) (g z)) : Corresponds R (zs.map f) ys := by
  refine ⟨by simp [← Array.length_toList, hys], fun i x y hx hy => ?_⟩
  rw [← Array.getElem?_toList, hys, List.getElem?_map] at hy
  rw [List.getElem?_map] at hx
  obtain ⟨z, hz, rfl⟩ := Option.map_eq_some_iff.1 hx
  obtain ⟨z', hz', rfl⟩ := Option.map_eq_some_iff.1 hy
  obtain rfl := Option.some.inj (hz.symm.trans hz')
  exact hfg i z

theorem imp (h : Corresponds R xs ys) (himp : ∀ i x y, R i x y → R' i x y) :
    Corresponds R' xs ys :=
  ⟨h.size_eq, fun i x y hx hy => himp i x y (h.rel i x y hx hy)⟩

theorem push (h : Corresponds R xs ys) {x : α} {y : β} (hxy : R xs.length x y) :
    Corresponds R (xs ++ [x]) (ys.push y) := by
  refine ⟨by simp [h.size_eq], fun i a b ha hb => ?_⟩
  rw [Array.getElem?_push, h.size_eq] at hb
  split at hb
  · next hi =>
    subst hi
    obtain rfl : x = a := by simpa using ha
    exact Option.some.inj hb ▸ hxy
  · next hi =>
    have hlt : i < xs.length := by
      have := (List.getElem?_eq_some_iff.1 ha).1
      simp only [List.length_append, List.length_singleton] at this
      omega
    rw [List.getElem?_append_left hlt] at ha
    exact h.rel i a b ha hb

theorem modify {before after : List α} {x x' : α} (h : Corresponds R (before ++ x :: after) ys)
    (hother : ∀ i a b, i ≠ before.length → R i a b → R' i a b) {g : β → β}
    (hg : ∀ y, R before.length x y → R' before.length x' (g y)) :
    Corresponds R' (before ++ x' :: after) (ys.modify before.length g) := by
  refine ⟨by simp [h.size_eq], fun i a b ha hb => ?_⟩
  rw [Array.getElem?_modify] at hb
  by_cases hi : before.length = i
  · subst hi
    obtain rfl : x' = a := by simpa using ha
    rw [if_pos rfl] at hb
    obtain ⟨y, hy, rfl⟩ := Option.map_eq_some_iff.1 hb
    exact hg y (h.rel _ x y (by simp) hy)
  · rw [if_neg hi] at hb
    refine hother i a b (Ne.symm hi) (h.rel i a b ?_ hb)
    rw [List.getElem?_append] at ha ⊢
    split
    · next hlt => rwa [if_pos hlt] at ha
    · next hge =>
      obtain ⟨j, hj⟩ : ∃ j, i - before.length = j + 1 := ⟨i - before.length - 1, by omega⟩
      rw [if_neg hge, hj] at ha
      rw [hj]
      exact ha

end Corresponds

end SchemaTypes.Document
