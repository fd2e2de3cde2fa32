import MixedScript.Proofs.Layout.Cells

/-!
# The sheet a layout writes

While the layout reads a script it writes rows of cells: the rows closed by a hard newline and
the row being read. The logical lines are the rows that are not blank, so a character written in
a row keeps its line index and its column however much more the layout writes. `Sheet.At`
names such a position; it is how the recorded substitutions and unmatched closers are located.
-/

namespace MixedScript.Layout

open MixedScript.Text

/-- The rows written so far: those closed by a hard newline, and the row being read. -/
structure Sheet where
  closed : List (List Cell)
  current : List Cell

/-- A row that is not blank. -/
def filled (r : List Cell) : Bool :=
  !r.all Cell.blank

@[simp] theorem filled_nil : filled [] = false := rfl

namespace Sheet

/-- Nothing written yet. -/
def empty : Sheet :=
  ⟨[], []⟩

/-- Writes a cell in the current row. -/
def push (g : Sheet) (x : Cell) : Sheet :=
  ⟨g.closed, g.current ++ [x]⟩

/-- Closes the current row at a hard newline. -/
def close (g : Sheet) : Sheet :=
  ⟨g.closed ++ [g.current], []⟩

def rows (g : Sheet) : List (List Cell) :=
  g.closed ++ [g.current]

/-- All cells in order, a hard newline being the character cell `'\n'`. -/
def cells (g : Sheet) : List Cell :=
  g.closed.flatMap (· ++ [.char '\n']) ++ g.current

/-- The logical lines: the rows that are not blank. -/
def lines (g : Sheet) : List (List Cell) :=
  g.rows.filter filled

/-- How many closed rows are logical lines: the index the current row gets. -/
def closedLines (g : Sheet) : Nat :=
  (g.closed.filter filled).length

/-- Character `c` was written at column `col` of logical line `line`. -/
def At (g : Sheet) (line col : Nat) (c : Char) : Prop :=
  ∃ r, g.lines[line]? = some r ∧ r[col]? = some (.char c)

/-- No row holds a character cell for a newline. -/
def NoBreakCells (g : Sheet) : Prop :=
  ∀ r ∈ g.rows, Cell.char '\n' ∉ r

@[simp] theorem push_closed (g : Sheet) (x : Cell) : (g.push x).closed = g.closed := rfl

@[simp] theorem push_current (g : Sheet) (x : Cell) : (g.push x).current = g.current ++ [x] := rfl

@[simp] theorem close_closed (g : Sheet) : g.close.closed = g.closed ++ [g.current] := rfl

@[simp] theorem close_current (g : Sheet) : g.close.current = [] := rfl

@[simp] theorem cells_push (g : Sheet) (x : Cell) : (g.push x).cells = g.cells ++ [x] := by
  simp [cells]

@[simp] theorem cells_close (g : Sheet) : g.close.cells = g.cells ++ [.char '\n'] := by
  simp [cells]

@[simp] theorem cells_empty : empty.cells = [] := rfl

@[simp] theorem closedLines_push (g : Sheet) (x : Cell) :
    (g.push x).closedLines = g.closedLines := rfl

theorem closedLines_close (g : Sheet) :
    g.close.closedLines = g.closedLines + if filled g.current then 1 else 0 := by
  by_cases h : filled g.current <;> simp [closedLines, List.filter_append, h]

@[simp] theorem lines_close (g : Sheet) : g.close.lines = g.lines := by
  simp only [lines, rows, close_closed, close_current, List.append_assoc, List.filter_append]
  simp

theorem lines_eq (g : Sheet) :
    g.lines = g.closed.filter filled ++ if filled g.current then [g.current] else [] := by
  by_cases h : filled g.current <;> simp [lines, rows, List.filter_append, h]

theorem filled_append (r : List Cell) (x : Cell) : filled (r ++ [x]) = (filled r || !x.blank) := by
  simp [filled, Bool.not_and]

theorem filled_append_char {r : List Cell} {c : Char} (hc : isBlank c = false) :
    filled (r ++ [.char c]) = true := by
  simp [filled, Cell.blank, hc]

theorem filled_append_of_filled {r : List Cell} (x : Cell) (h : filled r = true) :
    filled (r ++ [x]) = true := by
  simp only [filled, Bool.not_eq_true', List.all_eq_false] at h ⊢
  obtain ⟨y, hy, hb⟩ := h
  exact ⟨y, List.mem_append_left _ hy, hb⟩

theorem getElem?_lines_push {g : Sheet} {line : Nat} {r : List Cell} (h : g.lines[line]? = some r)
    (x : Cell) :
    (g.push x).lines[line]? = some r ∨
      (line = g.closedLines ∧ r = g.current ∧ (g.push x).lines[line]? = some (g.current ++ [x])) := by
  rw [lines_eq] at h
  by_cases hl : line < g.closedLines
  · left
    unfold closedLines at hl
    rw [List.getElem?_append_left hl] at h
    rw [lines_eq, push_closed, List.getElem?_append_left hl, h]
  · right
    unfold closedLines at hl
    rw [List.getElem?_append_right (by omega)] at h
    by_cases hf : filled g.current
    · rw [if_pos hf] at h
      obtain ⟨hl', rfl⟩ : line - (g.closed.filter filled).length = 0 ∧ g.current = r := by
        simpa [List.getElem?_cons] using h
      refine ⟨by unfold closedLines; omega, rfl, ?_⟩
      rw [lines_eq, push_closed, push_current, if_pos (filled_append_of_filled x hf),
        List.getElem?_append_right (by omega)]
      simp [hl']
    · simp [hf] at h

theorem At.push {g : Sheet} {line col : Nat} {c : Char} (h : g.At line col c) (x : Cell) :
    (g.push x).At line col c := by
  obtain ⟨r, hr, hc⟩ := h
  rcases getElem?_lines_push hr x with hr' | ⟨-, rfl, hr'⟩
  · exact ⟨r, hr', hc⟩
  · refine ⟨g.current ++ [x], hr', ?_⟩
    rw [List.getElem?_append_left (List.getElem?_eq_some_iff.1 hc).1]
    exact hc

theorem NoBreakCells.push {g : Sheet} (h : g.NoBreakCells) {x : Cell} (hx : x ≠ .char '\n') :
    (g.push x).NoBreakCells := by
  intro r hr
  simp only [rows, push_closed, push_current, List.mem_append, List.mem_singleton] at hr
  rcases hr with hr | rfl
  · exact h r (List.mem_append_left _ hr)
  · simp only [List.mem_append, List.mem_singleton, not_or]
    exact ⟨h _ (List.mem_append_right _ (List.mem_singleton_self _)), Ne.symm hx⟩

theorem NoBreakCells.close {g : Sheet} (h : g.NoBreakCells) : g.close.NoBreakCells := by
  intro r hr
  simp only [rows, close_closed, close_current, List.mem_append, List.mem_singleton] at hr
  rcases hr with (hr | rfl) | rfl
  · exact h r (List.mem_append_left _ hr)
  · exact h _ (List.mem_append_right _ (List.mem_singleton_self _))
  · simp

@[simp] theorem at_close {g : Sheet} {line col : Nat} {c : Char} :
    g.close.At line col c ↔ g.At line col c := by
  simp [At]

theorem getElem?_lines_push_char (g : Sheet) {c : Char} (hc : isBlank c = false) :
    (g.push (.char c)).lines[g.closedLines]? = some (g.current ++ [.char c]) := by
  rw [lines_eq, push_closed, push_current, if_pos (filled_append_char hc)]
  simp [closedLines]

theorem at_push_char (g : Sheet) {c : Char} (hc : isBlank c = false) :
    (g.push (.char c)).At g.closedLines g.current.length c :=
  ⟨g.current ++ [.char c], getElem?_lines_push_char g hc, by simp⟩

theorem At.line_le {g : Sheet} {line col : Nat} {c : Char} (h : g.At line col c) :
    line < g.closedLines ∨ (line = g.closedLines ∧ filled g.current = true ∧ col < g.current.length) := by
  obtain ⟨r, hr, hc⟩ := h
  rw [lines_eq] at hr
  by_cases hl : line < g.closedLines
  · exact .inl hl
  · right
    unfold closedLines at hl
    rw [List.getElem?_append_right (by omega)] at hr
    by_cases hf : filled g.current
    · rw [if_pos hf] at hr
      obtain ⟨hl', rfl⟩ : line - (g.closed.filter filled).length = 0 ∧ g.current = r := by
        simpa [List.getElem?_cons] using hr
      exact ⟨by unfold closedLines; omega, hf, (List.getElem?_eq_some_iff.1 hc).1⟩
    · simp [hf] at hr

end Sheet

end MixedScript.Layout
