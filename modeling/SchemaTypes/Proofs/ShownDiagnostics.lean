/-
Where the outputs hold a diagnostic.

Printed as lines, diagnostics stand one after the other, and printed as a JSON
list each stands one level deeper than the list, so that either output holds
each of them. A printed table of fields holds none: a printed document has a new
line only where one of its items, members or brackets begins, and the line is
indented as deep as that stands in the document. A diagnostic in a list has a
line two levels deep that begins with its code. A row of a table has other
members at that level, and what is in these stands deeper, so that no line of
the table begins like this (`FieldTable.not_infix`).
-/
import SchemaTypes.FieldTable
import SchemaTypes.Diagnostic.Emission
import SchemaTypes.Proofs.PrintedJson
import Mathlib.Data.List.Infix

namespace SchemaTypes

namespace Json

/-! ## Where new lines are -/

theorem newline_not_mem_controlEscape {c : Char} (hc : c.toNat < 0x20) : '\n' ∉ controlEscape c := by
  have hdigit : ∀ n < 16, '\n' ≠ Nat.digitChar n := by
    intro n hn h
    have hnone : hexValue? '\n' = none := by decide
    rw [h, hexValue?_digitChar n hn] at hnone
    cases hnone
  simp [controlEscape, hdigit (c.toNat / 16) (by omega), hdigit (c.toNat % 16) (by omega)]

theorem newline_not_mem_escaped (c : Char) : '\n' ∉ escaped c := by
  by_cases hnewline : c = '\n'
  · subst hnewline
    decide
  · unfold escaped
    repeat' split
    all_goals first
      | decide
      | exact newline_not_mem_controlEscape ‹_›
      | simp [Ne.symm hnewline]

theorem newline_not_mem_textLiteral (s : String) : '\n' ∉ textLiteral s := by
  simp [textLiteral, newline_not_mem_escaped]

theorem newline_not_mem_number (n : Nat) : '\n' ∉ (toString n).toList := by
  have hdigits : ∀ d ∈ Nat.toDigits 10 n, d.isDigit :=
    fun d hd => Nat.isDigit_of_mem_toDigits (by decide) (by decide) hd
  simpa using fun h => absurd (hdigits _ h) (by decide)

/-! ## A line that begins with a code -/

/-- The beginning of a line two levels deep with a text that begins with a `c`, as the key of a
code does. -/
def codeStart : List Char :=
  lineStart 2 ++ ['\"', 'c']

variable {k depth : Nat} {c : Char} {ys rest : List Char}

theorem codeStart_of_cons (hc : '\n' ≠ c) (h : codeStart <:+: c :: ys) : codeStart <:+: ys := by
  rw [List.infix_cons_iff] at h
  rcases h with hstart | hlater
  · exact absurd (List.cons_prefix_cons.1 hstart).1 hc
  · exact hlater

theorem codeStart_of_append {xs : List Char} (hxs : '\n' ∉ xs) (h : codeStart <:+: xs ++ ys) :
    codeStart <:+: ys := by
  induction xs with
  | nil => exact h
  | cons x xs ih =>
    rw [List.mem_cons, not_or] at hxs
    exact ih hxs.2 (codeStart_of_cons hxs.1 h)

theorem codeStart_of_line (hline : ¬codeStart <+: lineStart k ++ ys)
    (h : codeStart <:+: lineStart k ++ ys) : codeStart <:+: ys := by
  unfold lineStart at h hline
  rw [List.cons_append, List.infix_cons_iff] at h
  have hspaces : '\n' ∉ List.replicate (2 * k) ' ' := by simp
  exact codeStart_of_append hspaces (h.resolve_left hline)

theorem not_codeStart_deep (hk : 3 ≤ k) : ¬codeStart <+: lineStart k ++ ys := by
  obtain ⟨j, rfl⟩ : ∃ j, k = j + 3 := ⟨k - 3, by omega⟩
  have hspaces : 2 * (j + 3) = 2 * j + 1 + 5 := by omega
  simp [codeStart, lineStart, hspaces, List.replicate_succ]

/-- A bracket at the beginning of a line. -/
theorem not_codeStart_bracket (hspace : ' ' ≠ c) (hquote : '\"' ≠ c) :
    ¬codeStart <+: lineStart k ++ c :: ys := by
  match k with
  | 0 | 1 | 2 => simp [codeStart, lineStart, List.replicate_succ, hspace, hquote]
  | k + 3 => exact not_codeStart_deep (by omega)

theorem codeStart_of_close (hline : '\n' ≠ c) (hspace : ' ' ≠ c) (hquote : '\"' ≠ c)
    (h : codeStart <:+: (lineStart depth ++ [c]) ++ rest) : codeStart <:+: rest := by
  rw [List.append_assoc] at h
  exact codeStart_of_cons hline (codeStart_of_line (not_codeStart_bracket hspace hquote) h)

/-! ## Lists and objects -/

/-- The first item of a list stands as the others do, but for the comma. -/
theorem codeStart_list {v : Value} {vs : List Value}
    (h : codeStart <:+: layout depth (.list (v :: vs)) ++ rest) :
    codeStart <:+: layoutItems depth (v :: vs) ++ rest := by
  rw [layout, List.cons_append] at h
  rw [layoutItems, List.cons_append]
  exact List.infix_cons (codeStart_of_cons (by decide) h)

theorem codeStart_object {m : String × Value} {ms : List (String × Value)}
    (h : codeStart <:+: layout depth (.object (m :: ms)) ++ rest) :
    codeStart <:+: layoutMembers depth (m :: ms) ++ rest := by
  rw [layout, List.cons_append] at h
  rw [layoutMembers, List.cons_append]
  exact List.infix_cons (codeStart_of_cons (by decide) h)

theorem codeStart_item {v : Value} {vs : List Value}
    (hline : ¬codeStart <+: lineStart (depth + 1) ++ (layout (depth + 1) v ++
      (layoutItems depth vs ++ rest)))
    (h : codeStart <:+: layoutItems depth (v :: vs) ++ rest) :
    codeStart <:+: layout (depth + 1) v ++ (layoutItems depth vs ++ rest) := by
  rw [layoutItems, List.cons_append, List.append_assoc, List.append_assoc] at h
  exact codeStart_of_line hline (codeStart_of_cons (by decide) h)

theorem codeStart_member {key : String} {v : Value} {ms : List (String × Value)}
    (hline : ¬codeStart <+: lineStart (depth + 1) ++ (textLiteral key ++ (':' :: ' ' ::
      (layout (depth + 1) v ++ (layoutMembers depth ms ++ rest)))))
    (h : codeStart <:+: layoutMembers depth ((key, v) :: ms) ++ rest) :
    codeStart <:+: layout (depth + 1) v ++ (layoutMembers depth ms ++ rest) := by
  rw [layoutMembers] at h
  simp only [List.cons_append, List.append_assoc] at h
  have hkey := codeStart_of_line hline (codeStart_of_cons (by decide) h)
  have hcolon := codeStart_of_append (newline_not_mem_textLiteral key) hkey
  exact codeStart_of_cons (by decide) (codeStart_of_cons (by decide) hcolon)

mutual

/-- What stands at the second level or deeper has its own lines deeper than that. -/
theorem codeStart_layout : ∀ (v : Value) {depth : Nat} {rest : List Char}, 2 ≤ depth →
    codeStart <:+: layout depth v ++ rest → codeStart <:+: rest
  | .null, depth, rest, _, h => codeStart_of_append (by simp [layout]) h
  | .bool b, depth, rest, _, h => codeStart_of_append (by cases b <;> simp [layout]) h
  | .number n, depth, rest, _, h => codeStart_of_append (newline_not_mem_number n) h
  | .text s, depth, rest, _, h => codeStart_of_append (newline_not_mem_textLiteral s) h
  | .list [], depth, rest, _, h => codeStart_of_append (by simp [layout]) h
  | .list (v :: vs), depth, rest, hdepth, h =>
    codeStart_layoutItems (v :: vs) hdepth (codeStart_list h)
  | .object [], depth, rest, _, h => codeStart_of_append (by simp [layout]) h
  | .object (m :: ms), depth, rest, hdepth, h =>
    codeStart_layoutMembers (m :: ms) hdepth (codeStart_object h)

theorem codeStart_layoutItems : ∀ (vs : List Value) {depth : Nat} {rest : List Char}, 2 ≤ depth →
    codeStart <:+: layoutItems depth vs ++ rest → codeStart <:+: rest
  | [], depth, rest, _, h => codeStart_of_close (by decide) (by decide) (by decide) h
  | v :: vs, depth, rest, hdepth, h => by
    have hitem := codeStart_item (not_codeStart_deep (by omega)) h
    exact codeStart_layoutItems vs hdepth (codeStart_layout v (by omega) hitem)

theorem codeStart_layoutMembers : ∀ (ms : List (String × Value)) {depth : Nat} {rest : List Char},
    2 ≤ depth → codeStart <:+: layoutMembers depth ms ++ rest → codeStart <:+: rest
  | [], depth, rest, _, h => codeStart_of_close (by decide) (by decide) (by decide) h
  | (key, v) :: ms, depth, rest, hdepth, h => by
    have hmember := codeStart_member (not_codeStart_deep (by omega)) h
    exact codeStart_layoutMembers ms hdepth (codeStart_layout v (by omega) hmember)

end

/-- An object at the first level without a key that begins with a `c`. -/
theorem codeStart_members : ∀ (ms : List (String × Value)) {rest : List Char},
    (∀ m ∈ ms, ¬['\"', 'c'] <+: textLiteral m.1) →
    codeStart <:+: layoutMembers 1 ms ++ rest → codeStart <:+: rest
  | [], rest, _, h => codeStart_of_close (by decide) (by decide) (by decide) h
  | (key, v) :: ms, rest, hkeys, h => by
    have hline : ¬codeStart <+: lineStart 2 ++ (textLiteral key ++ (':' :: ' ' ::
        (layout 2 v ++ (layoutMembers 1 ms ++ rest)))) := by
      unfold codeStart
      rw [List.prefix_append_right_inj]
      intro hprefix
      refine hkeys _ List.mem_cons_self ?_
      exact List.prefix_of_prefix_length_le hprefix (List.prefix_append _ _) (by simp [textLiteral])
    have hmember := codeStart_member hline h
    exact codeStart_members ms (fun m hm => hkeys m (List.mem_cons_of_mem _ hm))
      (codeStart_layout v (by omega) hmember)

/-! ## Items -/

/-- The first item of some is followed by the others, each one level deeper than the list. -/
theorem infix_layoutItems {v first : Value} {vs : List Value} (hv : v ∈ first :: vs)
    (depth : Nat) : layout (depth + 1) v <:+:
      layout (depth + 1) first ++ layoutItems depth vs := by
  induction vs generalizing first with
  | nil =>
    obtain rfl : v = first := by simpa using hv
    exact (List.prefix_append _ _).isInfix
  | cons second vs ih =>
    rcases List.mem_cons.1 hv with rfl | hlater
    · exact (List.prefix_append _ _).isInfix
    · rw [layoutItems, ← List.cons_append, ← List.append_assoc]
      exact (ih hlater).trans (List.suffix_append _ _).isInfix

theorem infix_layout_list {v : Value} {vs : List Value} (hv : v ∈ vs) (depth : Nat) :
    layout (depth + 1) v <:+: layout depth (.list vs) := by
  cases vs with
  | nil => cases hv
  | cons first vs =>
    rw [layout, ← List.cons_append]
    exact (infix_layoutItems hv depth).trans (List.suffix_append _ _).isInfix

end Json

open Json

/-! ## Rows and diagnostics -/

theorem FieldRow.codeStart_toJson (r : FieldRow) {rest : List Char}
    (h : codeStart <:+: layout 1 r.toJson ++ rest) : codeStart <:+: rest := by
  obtain ⟨field, typedef, target⟩ := r
  cases typedef with
  | none | some t =>
    refine codeStart_members _ ?_ (codeStart_object h)
    simp [textLiteral, escaped]

theorem FieldTable.codeStart_rows (rows : List FieldRow) {rest : List Char}
    (h : codeStart <:+: layoutItems 0 (rows.map FieldRow.toJson) ++ rest) : codeStart <:+: rest := by
  induction rows with
  | nil => exact codeStart_of_close (by decide) (by decide) (by decide) h
  | cons r rows ih =>
    obtain ⟨cs, hcs⟩ : ∃ cs, layout 1 r.toJson = '\x7b' :: cs := ⟨_, rfl⟩
    refine ih (r.codeStart_toJson (codeStart_item ?_ h))
    rw [hcs, List.cons_append]
    exact not_codeStart_bracket (by decide) (by decide)

theorem Diagnostic.codeStart_toJson (d : Diagnostic) : codeStart <:+: layout 1 d.toJson :=
  ⟨['\x7b'], _, rfl⟩

/-- A printed table does not hold a diagnostic as a list of them does. -/
theorem FieldTable.not_infix (rows : List FieldRow) (d : Diagnostic) :
    ¬layout 1 d.toJson <:+: ((toJson rows).pretty ++ "\n").toList := by
  intro hitem
  have htext : ((toJson rows).pretty ++ "\n").toList = layout 0 (toJson rows) ++ ['\n'] := by
    simp [Value.pretty]
  have hline := d.codeStart_toJson.trans hitem
  rw [htext] at hline
  have hend : codeStart <:+: ['\n'] := by
    cases rows with
    | nil =>
      have hempty : '\n' ∉ layout 0 (toJson []) := by simp [toJson, layout]
      exact codeStart_of_append hempty hline
    | cons r rows => exact codeStart_rows (r :: rows) (codeStart_list hline)
  exact absurd hend.length_le (by decide)

/-! ## The outputs -/

variable {d : Diagnostic} {ds : List Diagnostic}

namespace Terminal

theorem toList_write (colored : Bool) (pieces : List Piece) :
    (write colored pieces).toList = pieces.flatMap fun p => (p.write colored).toList := by
  unfold write
  rw [String.toList_join, List.flatMap_map]

theorem infix_output (hd : d ∈ ds) (colored : Bool) (errors warnings : Nat) :
    (output colored [.one d]).toList <:+:
      (output colored [.all ds, .totals errors warnings, .flush]).toList := by
  have hpieces : [Emission.one d].flatMap pieces <:+:
      [.all ds, .totals errors warnings, .flush].flatMap pieces := by
    have hone : diagnosticPieces d <:+: ds.flatMap diagnosticPieces := by
      rw [List.flatMap_def]
      exact List.infix_of_mem_flatten (List.mem_map_of_mem hd)
    simpa [pieces] using hone.trans (List.prefix_append _ _).isInfix
  unfold output
  rw [toList_write, toList_write]
  exact hpieces.flatMap _

theorem newline_mem_output (colored : Bool) (d : Diagnostic) :
    '\n' ∈ (output colored [.one d]).toList := by
  unfold output
  rw [toList_write, List.mem_flatMap]
  refine ⟨.plain "\n", ?_, ?_⟩
  · simp [pieces, diagnosticPieces]
  · show '\n' ∈ "\n".toList
    decide

end Terminal

theorem JsonOutput.infix_output (hd : d ∈ ds) :
    layout 1 d.toJson <:+: (output [.all ds, .flush]).toList := by
  have hitem : layout 1 d.toJson <:+: layout 0 (.list (ds.map Diagnostic.toJson)) :=
    infix_layout_list (List.mem_map_of_mem hd) 0
  have hdocument : (output [.all ds, .flush]).toList =
      layout 0 (.list (ds.map Diagnostic.toJson)) ++ ['\n'] := by
    simp [output, step, document, Value.pretty]
  rw [hdocument]
  exact hitem.trans (List.prefix_append _ _).isInfix

end SchemaTypes
