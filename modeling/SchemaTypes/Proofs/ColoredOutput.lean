/-
What colors add to an output for a terminal.

A control sequence begins with an escape character and a bracket and ends with
the next `m`. A piece that is written in a style stands between two of them, and
nothing else of an output depends on whether it is colored. So if no text that
is printed holds an escape character, the colored output without its control
sequences is the plain output (`Terminal.colors_add_controls`).
-/
import SchemaTypes.Proofs.ShownDiagnostics

namespace SchemaTypes

/-- The texts of a diagnostic that are printed for a terminal. -/
def Diagnostic.printedTexts (d : Diagnostic) : List String :=
  d.message :: d.labels.map (·.message) ++ d.notes ++ d.suggestions.map (·.message)

/-- The texts that a call hands over to be printed. -/
def Emission.printedTexts : Emission → List String
  | .one d => d.printedTexts
  | .all ds => ds.flatMap Diagnostic.printedTexts
  | .totals _ _ => []
  | .flush => []

namespace Terminal

/-- A text holds no escape character. -/
def Unescaped (s : String) : Prop :=
  '\x1b' ∉ s.toList

instance (s : String) : Decidable (Unescaped s) :=
  inferInstanceAs (Decidable ('\x1b' ∉ s.toList))

/-! ## Control sequences -/

/-- A text without its control sequences. What begins as one and has no end stays. -/
def withoutControls : List Char → List Char
  | [] => []
  | c :: rest =>
    if c = '\x1b' ∧ rest.head? = some '[' ∧ 'm' ∈ rest then
      withoutControls (rest.dropWhile (· ≠ 'm')).tail
    else c :: withoutControls rest
termination_by s => s.length
decreasing_by
  · have hle := (List.dropWhile_sublist (l := rest) fun x => decide (x ≠ 'm')).length_le
    simp only [List.length_tail, List.length_cons]
    omega
  · simp

example : withoutControls "a\x1b[1;31mb\x1b[0mm\x1b[".toList = "abm\x1b[".toList := by cbv

variable {xs params rest : List Char}

theorem withoutControls_append (h : '\x1b' ∉ xs) :
    withoutControls (xs ++ rest) = xs ++ withoutControls rest := by
  induction xs with
  | nil => rfl
  | cons x xs ih =>
    rw [List.mem_cons, not_or] at h
    rw [List.cons_append, withoutControls, if_neg fun hx => h.1 hx.1.symm, ih h.2, List.cons_append]

theorem withoutControls_control (h : 'm' ∉ params) :
    withoutControls ('\x1b' :: '[' :: (params ++ 'm' :: rest)) = withoutControls rest := by
  have hskip : ('[' :: (params ++ 'm' :: rest)).dropWhile (· ≠ 'm') = 'm' :: rest := by
    rw [← List.cons_append, List.dropWhile_append_of_pos fun x hx => ?_]
    · simp
    · rcases List.mem_cons.1 hx with rfl | hx
      · decide
      · exact decide_eq_true fun e => h (e ▸ hx)
  rw [withoutControls, if_pos ⟨rfl, rfl, by simp⟩, hskip, List.tail_cons]

/-- A text is a control sequence. -/
def IsControl (s : String) : Prop :=
  ∃ params, 'm' ∉ params ∧ s.toList = '\x1b' :: '[' :: (params ++ ['m'])

theorem Style.isControl_start (style : Style) : IsControl style.start := by
  cases style with
  | red => exact ⟨"1;31".toList, by decide, rfl⟩
  | yellow => exact ⟨"1;33".toList, by decide, rfl⟩
  | cyan => exact ⟨"1;36".toList, by decide, rfl⟩
  | green => exact ⟨"1;32".toList, by decide, rfl⟩
  | blue => exact ⟨"1;34".toList, by decide, rfl⟩
  | bold => exact ⟨"1".toList, by decide, rfl⟩

theorem isControl_reset : IsControl reset :=
  ⟨"0".toList, by decide, rfl⟩

theorem IsControl.withoutControls_append {s : String} (h : IsControl s) :
    withoutControls (s.toList ++ rest) = withoutControls rest := by
  obtain ⟨params, hparams, hs⟩ := h
  simp [hs, withoutControls_control hparams]

/-! ## Pieces -/

def Piece.text : Piece → String
  | .plain s => s
  | .styled _ s => s

/-- Colors only put control sequences around a piece. -/
theorem Piece.withoutControls_write {p : Piece} (h : Unescaped p.text) :
    withoutControls ((p.write true).toList ++ rest) =
      (p.write false).toList ++ withoutControls rest := by
  cases p with
  | plain s => exact withoutControls_append h
  | styled style s =>
    have hwrite : (Piece.styled style s).write true = style.start ++ s ++ reset := rfl
    have htext : '\x1b' ∉ s.toList := h
    rw [hwrite, String.toList_append, String.toList_append, List.append_assoc, List.append_assoc,
      style.isControl_start.withoutControls_append, withoutControls_append htext,
      isControl_reset.withoutControls_append]
    rfl

theorem withoutControls_write : ∀ {ps : List Piece}, (∀ p ∈ ps, Unescaped p.text) →
    withoutControls (write true ps).toList = (write false ps).toList
  | [], _ => by simp [toList_write, withoutControls]
  | p :: ps, h => by
    have ih := withoutControls_write fun q hq => h q (List.mem_cons_of_mem p hq)
    rw [toList_write, toList_write] at ih
    rw [toList_write, toList_write, List.flatMap_cons, List.flatMap_cons,
      Piece.withoutControls_write (h p List.mem_cons_self), ih]

theorem unescaped_write {ps : List Piece} (h : ∀ p ∈ ps, Unescaped p.text) :
    Unescaped (write false ps) := by
  unfold Unescaped
  rw [toList_write, List.mem_flatMap]
  rintro ⟨p, hp, hmem⟩
  refine h p hp ?_
  cases p with
  | plain s => exact hmem
  | styled style s => exact hmem

/-! ## What the pieces hold -/

@[simp]
theorem unescaped_append {s t : String} : Unescaped (s ++ t) ↔ Unescaped s ∧ Unescaped t := by
  simp [Unescaped, not_or]

@[simp]
theorem unescaped_repr (n : Nat) : Unescaped n.repr := by
  have hdigits : ∀ d ∈ Nat.toDigits 10 n, d.isDigit :=
    fun d hd => Nat.isDigit_of_mem_toDigits (by decide) (by decide) hd
  simpa [Unescaped] using fun h => absurd (hdigits _ h) (by decide)

theorem unescaped_counted (n : Nat) {what : String} (h : Unescaped what) :
    Unescaped (counted n what) := by
  unfold counted
  split <;> simp +decide [h]

theorem unescaped_labelPieces {l : Label} (h : Unescaped l.message) :
    ∀ p ∈ labelPieces l, Unescaped p.text := by
  cases hl : l.isPrimary <;> simp +decide [labelPieces, Piece.text, Span.text, hl, h]

theorem unescaped_notePieces {note : String} (h : Unescaped note) :
    ∀ p ∈ notePieces note, Unescaped p.text := by
  simp +decide [notePieces, Piece.text, h]

theorem unescaped_suggestionPieces {hint : Suggestion} (h : Unescaped hint.message) :
    ∀ p ∈ suggestionPieces hint, Unescaped p.text := by
  simp +decide [suggestionPieces, Piece.text, h]

theorem unescaped_diagnosticPieces {d : Diagnostic} (h : ∀ t ∈ d.printedTexts, Unescaped t) :
    ∀ p ∈ diagnosticPieces d, Unescaped p.text := by
  have hcode : Unescaped d.code.text := by cases d.code <;> decide
  have hseverity : Unescaped d.severity.text := by cases d.severity <;> decide
  simp only [Diagnostic.printedTexts, List.cons_append, List.forall_mem_cons,
    List.forall_mem_append, List.forall_mem_map] at h
  obtain ⟨hmessage, ⟨hlabels, hnotes⟩, hhints⟩ := h
  simp only [diagnosticPieces, List.forall_mem_append, List.forall_mem_flatMap]
  refine ⟨⟨⟨⟨?_, fun l hl => unescaped_labelPieces (hlabels l hl)⟩,
    fun note hnote => unescaped_notePieces (hnotes note hnote)⟩,
    fun hint hhint => unescaped_suggestionPieces (hhints hint hhint)⟩, by decide⟩
  simp +decide [Piece.text, hcode, hseverity, hmessage]

theorem unescaped_totalsPieces (errors warnings : Nat) :
    ∀ p ∈ totalsPieces errors warnings, Unescaped p.text := by
  have herrors : Unescaped (counted errors "error") := unescaped_counted _ (by decide)
  have hwarnings : Unescaped (counted warnings "warning") := unescaped_counted _ (by decide)
  unfold totalsPieces
  repeat' split
  all_goals simp +decide [Piece.text, herrors, hwarnings]

theorem unescaped_pieces {call : Emission} (h : ∀ t ∈ call.printedTexts, Unescaped t) :
    ∀ p ∈ pieces call, Unescaped p.text := by
  cases call with
  | one d => exact unescaped_diagnosticPieces h
  | all ds =>
    intro p hp
    obtain ⟨d, hd, hp⟩ := List.mem_flatMap.1 hp
    exact unescaped_diagnosticPieces (fun t ht => h t (List.mem_flatMap.2 ⟨d, hd, ht⟩)) p hp
  | totals errors warnings => exact unescaped_totalsPieces errors warnings
  | flush => simp [pieces]

/-! ## Outputs -/

/-- **Colors only add control sequences.** If no text that is printed holds an escape character,
the colored output of a sequence of calls without its control sequences is the plain output, which
holds no escape character. A color mode gives one of these two outputs. -/
theorem colors_add_controls {calls : List Emission}
    (h : ∀ call ∈ calls, ∀ t ∈ call.printedTexts, Unescaped t) :
    withoutControls (output true calls).toList = (output false calls).toList ∧
    Unescaped (output false calls) ∧
    ∀ (mode : ColorMode) (onTerminal : Bool), output (mode.colors onTerminal) calls =
      if mode = .always ∨ mode = .auto ∧ onTerminal then output true calls
      else output false calls := by
  have hpieces : ∀ p ∈ calls.flatMap pieces, Unescaped p.text := by
    intro p hp
    obtain ⟨call, hcall, hp⟩ := List.mem_flatMap.1 hp
    exact unescaped_pieces (h call hcall) p hp
  refine ⟨withoutControls_write hpieces, unescaped_write hpieces, fun mode onTerminal => ?_⟩
  cases mode <;> cases onTerminal <;> rfl

/-- A diagnostic with a label and a hint, and the totals. -/
def shownCalls : List Emission :=
  [.one {
      code := .classNameCase
      message := "class name `c` should start with an upper case letter"
      labels := [⟨⟨1, 4⟩, "class declared here", true⟩]
      suggestions := [⟨"rename the class to `C`", some "C"⟩] },
    .totals 1 0, .flush]

theorem colors_add_controls_shown :
    (∀ call ∈ shownCalls, ∀ t ∈ call.printedTexts, Unescaped t) ∧
    withoutControls (output true shownCalls).toList = (output false shownCalls).toList ∧
    output false shownCalls ≠ output true shownCalls := by
  have h : ∀ call ∈ shownCalls, ∀ t ∈ call.printedTexts, Unescaped t := by decide
  exact ⟨h, (colors_add_controls h).1, by decide +kernel⟩

end Terminal

end SchemaTypes
