/-
Paths along links of which each node has at most one, such as the typedef
that a data type names or the class that a class extends.

From one node there is one way on, so two paths from a node agree as far as
the shorter one goes (`Path.compare`). Over finitely many nodes a path either
comes to a node without a link or comes to one that it has passed
(`exists_end_or_return`), never both (`Path.no_return_of_end`), and which of
its nodes that is does not depend on the path (`Path.end_unique`,
`Path.return_unique`).
-/
import Mathlib.Data.List.Nodup
import Mathlib.Data.List.Perm.Subperm

namespace SchemaTypes

/-- `Path next a xs b`: the links from `a` lead to `b`, and the nodes passed before it are
`xs`, in this order. -/
inductive Path {α : Type} (next : α → Option α) : α → List α → α → Prop
  | here (a : α) : Path next a [] a
  | step {a b c : α} {xs : List α} (link : next a = some b) (rest : Path next b xs c) :
    Path next a (a :: xs) c

namespace Path

variable {α : Type} {next : α → Option α} {a b c x : α} {xs ys : List α}

theorem append (h : Path next a xs b) (h' : Path next b ys c) : Path next a (xs ++ ys) c := by
  induction h with
  | here => exact h'
  | step link _ ih => exact .step link (ih h')

theorem snoc (h : Path next a xs b) (link : next b = some c) : Path next a (xs ++ [b]) c :=
  h.append (.step link (.here c))

theorem mem_start (h : Path next a xs b) : a ∈ xs ++ [b] := by
  cases h <;> simp

/-- Each node passed cuts a path in two. -/
theorem split (h : Path next a xs b) (hx : x ∈ xs) :
    ∃ ys zs, xs = ys ++ x :: zs ∧ Path next a ys x ∧ Path next x (x :: zs) b := by
  induction h with
  | here => simp at hx
  | @step a b c xs link rest ih =>
    rcases List.mem_cons.1 hx with rfl | hx
    · exact ⟨[], xs, rfl, .here x, .step link rest⟩
    · obtain ⟨ys, zs, rfl, h₁, h₂⟩ := ih hx
      exact ⟨a :: ys, zs, rfl, .step link h₁, h₂⟩

theorem link_of_mem (h : Path next a xs b) (hx : x ∈ xs) : ∃ y, next x = some y := by
  obtain ⟨ys, zs, -, -, h'⟩ := h.split hx
  cases h' with
  | step link _ => exact ⟨_, link⟩

theorem exists_of_mem (h : Path next a xs b) (hx : x ∈ xs ++ [b]) : ∃ ys, Path next a ys x := by
  rcases List.mem_append.1 hx with hx | hx
  · obtain ⟨ys, -, -, h', -⟩ := h.split hx
    exact ⟨ys, h'⟩
  · obtain rfl : x = b := by simpa using hx
    exact ⟨xs, h⟩

theorem exists_last (h : Path next a xs b) (hxs : xs ≠ []) :
    ∃ ys c, Path next a ys c ∧ next c = some b := by
  induction h with
  | here => exact absurd rfl hxs
  | @step a c b xs link rest ih =>
    by_cases hnil : xs = []
    · subst hnil
      cases rest
      exact ⟨[], a, .here a, link⟩
    · obtain ⟨ys, d, hpath, hlast⟩ := ih hnil
      exact ⟨a :: ys, d, .step link hpath, hlast⟩

/-- Of two paths from one node the shorter one is the beginning of the other. -/
theorem compare (h : Path next a xs b) (h' : Path next a ys c) :
    (∃ zs, ys = xs ++ zs ∧ Path next b zs c) ∨ (∃ zs, xs = ys ++ zs ∧ Path next c zs b) := by
  induction h generalizing ys with
  | here => exact .inl ⟨ys, rfl, h'⟩
  | @step a b _ xs link rest ih =>
    cases h' with
    | here => exact .inr ⟨_, rfl, .step link rest⟩
    | step link' rest' =>
      obtain rfl : b = _ := Option.some.inj (link.symm.trans link')
      rcases ih rest' with ⟨zs, rfl, h⟩ | ⟨zs, rfl, h⟩
      · exact .inl ⟨zs, rfl, h⟩
      · exact .inr ⟨zs, rfl, h⟩

/-! ## Paths with an end -/

theorem eq_of_end (h : Path next a xs b) (ha : next a = none) : xs = [] ∧ b = a := by
  cases h with
  | here => exact ⟨rfl, rfl⟩
  | step link _ => simp [ha] at link

/-- What is on the way to the end of the links goes on to that end. -/
theorem to_end (h : Path next a xs b) (hb : next b = none) (h' : Path next a ys c) :
    ∃ zs, xs = ys ++ zs ∧ Path next c zs b := by
  rcases h.compare h' with ⟨zs, rfl, hzs⟩ | h
  · obtain ⟨rfl, rfl⟩ := hzs.eq_of_end hb
    exact ⟨[], by simp, .here _⟩
  · exact h

theorem mem_of_end (h : Path next a xs b) (hb : next b = none) (h' : Path next a ys c) :
    c ∈ xs ++ [b] := by
  obtain ⟨zs, rfl, hzs⟩ := h.to_end hb h'
  rw [List.append_assoc]
  exact List.mem_append_right _ hzs.mem_start

theorem end_unique (h : Path next a xs b) (hb : next b = none) (h' : Path next a ys c)
    (hc : next c = none) : xs = ys ∧ b = c := by
  obtain ⟨zs, rfl, hzs⟩ := h.to_end hb h'
  obtain ⟨rfl, rfl⟩ := hzs.eq_of_end hc
  exact ⟨by simp, rfl⟩

/-- On the way to an end no node is passed twice. -/
theorem nodup_of_end (h : Path next a xs b) (hb : next b = none) : (xs ++ [b]).Nodup := by
  induction h with
  | here => simp
  | @step a c b xs link rest ih =>
    refine List.nodup_cons.2 ⟨fun ha => ?_, ih hb⟩
    -- A second visit of `a` would leave less of the way than there is from `a`.
    have hlen : ∃ zs, Path next a zs b ∧ zs.length ≤ xs.length := by
      rcases List.mem_append.1 ha with ha | ha
      · obtain ⟨ys, zs, rfl, -, h⟩ := rest.split ha
        exact ⟨a :: zs, h, by simp⟩
      · obtain rfl : a = b := by simpa using ha
        simp [hb] at link
    obtain ⟨zs, hzs, hle⟩ := hlen
    obtain ⟨rfl, -⟩ := hzs.end_unique hb (.step link rest) hb
    exact absurd hle (by simp)

/-! ## Paths that return -/

theorem no_return_of_end (h : Path next a xs b) (hb : next b = none) (h' : Path next a ys c)
    (hc : c ∈ ys) : False := by
  obtain ⟨zs, rfl, hzs⟩ := h.to_end hb h'
  have hnodup := h.nodup_of_end hb
  have hc' : c ∈ zs ++ [b] := by
    cases hzs with
    | here => simp
    | step => simp
  rw [List.append_assoc] at hnodup
  exact (List.nodup_append.1 hnodup).2.2 c hc c hc' rfl

/-- The first node that is visited twice is the same on every path. -/
theorem return_unique (h : Path next a xs b) (hxs : xs.Nodup) (hb : b ∈ xs)
    (h' : Path next a ys c) (hys : ys.Nodup) (hc : c ∈ ys) : xs = ys ∧ b = c := by
  -- The longer of the two paths would pass the other one's last node a second time.
  have key : ∀ {xs zs : List α} {b c : α}, (xs ++ zs).Nodup → b ∈ xs → Path next b zs c →
      zs = [] ∧ c = b := by
    intro xs zs b c hnodup hb hzs
    cases hzs with
    | here => exact ⟨rfl, rfl⟩
    | step => exact absurd rfl ((List.nodup_append.1 hnodup).2.2 b hb b (.head _))
  rcases h.compare h' with ⟨zs, rfl, hzs⟩ | ⟨zs, rfl, hzs⟩
  · obtain ⟨rfl, rfl⟩ := key hys hb hzs
    exact ⟨by simp, rfl⟩
  · obtain ⟨rfl, rfl⟩ := key hxs hc hzs
    exact ⟨by simp, rfl⟩

theorem exists_nodup (h : Path next a xs b) : ∃ ys, Path next a ys b ∧ (ys ++ [b]).Nodup := by
  induction h with
  | here a => exact ⟨[], .here a, by simp⟩
  | @step a c b xs link _ ih =>
    obtain ⟨ys, hys, hnodup⟩ := ih
    by_cases ha : a ∈ ys ++ [b]
    · rcases List.mem_append.1 ha with ha | ha
      · obtain ⟨us, vs, rfl, -, h⟩ := hys.split ha
        rw [List.append_assoc] at hnodup
        exact ⟨a :: vs, h, (List.nodup_append.1 hnodup).2.1⟩
      · obtain rfl : a = b := by simpa using ha
        exact ⟨[], .here a, by simp⟩
    · exact ⟨a :: ys, .step link hys, List.nodup_cons.2 ⟨ha, hnodup⟩⟩

end Path

variable {α : Type} {next : α → Option α} {nodes : List α}

/-- A path that visits no node twice passes fewer nodes than there are. -/
theorem Path.length_lt (hnodes : ∀ x y, next x = some y → x ∈ nodes) {a b : α} {xs : List α}
    (h : Path next a xs b) (hb : b ∈ nodes) (hnodup : (xs ++ [b]).Nodup) :
    xs.length < nodes.length := by
  have hsub : xs ++ [b] ⊆ nodes := by
    intro x hx
    rcases List.mem_append.1 hx with hx | hx
    · obtain ⟨y, hy⟩ := h.link_of_mem hx
      exact hnodes x y hy
    · obtain rfl : x = b := by simpa using hx
      exact hb
  have hle := (List.subperm_of_subset hnodup hsub).length_le
  simp at hle
  omega

/-- **The two shapes of a path.** If only finitely many nodes have a link, the links from a
node come to an end or lead back to a node that they have passed. -/
theorem exists_end_or_return [DecidableEq α] (hnodes : ∀ x y, next x = some y → x ∈ nodes)
    (a : α) : (∃ xs b, Path next a xs b ∧ next b = none) ∨
      (∃ xs b, Path next a xs b ∧ xs.Nodup ∧ b ∈ xs) := by
  -- Each further node that is new uses up one of the nodes with a link.
  have walk : ∀ (k : Nat) (xs : List α) (b : α), Path next a xs b → xs.Nodup →
      nodes.length - xs.length = k → (∃ xs b, Path next a xs b ∧ next b = none) ∨
        (∃ xs b, Path next a xs b ∧ xs.Nodup ∧ b ∈ xs) := by
    intro k
    induction k with
    | zero =>
      intro xs b h hnodup hk
      by_cases hb : b ∈ xs
      · exact .inr ⟨xs, b, h, hnodup, hb⟩
      cases hlink : next b with
      | none => exact .inl ⟨xs, b, h, hlink⟩
      | some c =>
        have hlt := h.length_lt hnodes (hnodes b c hlink)
          (List.nodup_append_comm.1 (by simp [hb, hnodup]))
        omega
    | succ k ih =>
      intro xs b h hnodup hk
      by_cases hb : b ∈ xs
      · exact .inr ⟨xs, b, h, hnodup, hb⟩
      cases hlink : next b with
      | none => exact .inl ⟨xs, b, h, hlink⟩
      | some c =>
        refine ih (xs ++ [b]) c (h.snoc hlink) (List.nodup_append_comm.1 (by simp [hb, hnodup])) ?_
        simp
        omega
  exact walk _ [] a (.here a) List.nodup_nil rfl

end SchemaTypes
