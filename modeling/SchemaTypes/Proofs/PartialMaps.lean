/-
Partial functions mapped over lists: the result of each member, or nothing at
all if one member has none.
-/
import Mathlib.Data.List.Forall2

namespace SchemaTypes

theorem mem_of_mapM {α β : Type} {f : α → Option β} {y : β} : ∀ {xs : List α} {ys : List β},
    xs.mapM f = some ys → (y ∈ ys ↔ ∃ x ∈ xs, f x = some y)
  | [], ys, h => by
    obtain rfl : [] = ys := by simpa using h
    simp
  | x :: xs, ys, h => by
    simp only [List.mapM_cons, Option.bind_eq_bind, Option.bind_eq_some_iff] at h
    obtain ⟨z, hz, zs, hzs, hys⟩ := h
    obtain rfl := Option.some.inj hys
    rw [List.mem_cons, mem_of_mapM hzs, List.exists_mem_cons_iff, hz, Option.some.injEq, eq_comm]

theorem exists_of_mapM {α β : Type} {f : α → Option β} {x : α} : ∀ {xs : List α} {ys : List β},
    xs.mapM f = some ys → x ∈ xs → ∃ y, f x = some y
  | x' :: xs, ys, h, hx => by
    simp only [List.mapM_cons, Option.bind_eq_bind, Option.bind_eq_some_iff] at h
    obtain ⟨z, hz, zs, hzs, -⟩ := h
    rcases List.mem_cons.1 hx with rfl | hx
    · exact ⟨z, hz⟩
    · exact exists_of_mapM hzs hx

theorem exists_mapM {α β : Type} {f : α → Option β} : ∀ {xs : List α},
    (∀ x ∈ xs, ∃ y, f x = some y) → ∃ ys, xs.mapM f = some ys
  | [], _ => ⟨[], rfl⟩
  | x :: xs, h => by
    obtain ⟨y, hy⟩ := h x List.mem_cons_self
    obtain ⟨ys, hys⟩ := exists_mapM fun z hz => h z (List.mem_cons_of_mem x hz)
    exact ⟨y :: ys, by simp [hy, hys]⟩

theorem mapM_of_imp {α β γ : Type} {f : α → Option β} {g : α → Option γ} {k : β → γ}
    (hg : ∀ x y, f x = some y → g x = some (k y)) : ∀ {xs : List α} {ys : List β},
    xs.mapM f = some ys → xs.mapM g = some (ys.map k)
  | [], ys, h => by
    obtain rfl : [] = ys := by simpa using h
    rfl
  | x :: xs, ys, h => by
    simp only [List.mapM_cons, Option.bind_eq_bind, Option.bind_eq_some_iff] at h
    obtain ⟨z, hz, zs, hzs, hys⟩ := h
    obtain rfl := Option.some.inj hys
    rw [List.mapM_cons, hg x z hz, mapM_of_imp hg hzs]
    rfl

theorem forall₂_of_mapM {α β : Type} {f : α → Option β} : ∀ {xs : List α} {ys : List β},
    xs.mapM f = some ys → List.Forall₂ (fun x y => f x = some y) xs ys
  | [], ys, h => by
    obtain rfl : [] = ys := by simpa using h
    exact .nil
  | x :: xs, ys, h => by
    simp only [List.mapM_cons, Option.bind_eq_bind, Option.bind_eq_some_iff] at h
    obtain ⟨y, hy, rest, hrest, hys⟩ := h
    obtain rfl := Option.some.inj hys
    exact .cons hy (forall₂_of_mapM hrest)

end SchemaTypes
