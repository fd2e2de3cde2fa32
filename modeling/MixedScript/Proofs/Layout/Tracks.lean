import MixedScript.Proofs.Layout.Sheet
import MixedScript.Proofs.Layout.Step

/-!
# What the layout keeps track of

`Scanner.Tracks g s rest` says that the reader `s` has written the sheet `g` and that every
substitution and unmatched closer it recorded stands where the sheet shows it. Each kind of step
keeps this, so it holds after a whole script.
-/

namespace MixedScript

open MixedScript.Text MixedScript.Layout

namespace Span

/-- The substitution is closed at or before column `col` of line `line`. -/
def EndsBy (a : Span) (line col : Nat) : Prop :=
  a.line < line ∨ (a.line = line ∧ ∃ e, a.stop = some e ∧ e ≤ col)

/-- The substitution is closed where the other one opens, or before. -/
def Precedes (a b : Span) : Prop :=
  a.EndsBy b.line b.start

theorem EndsBy.mono {a : Span} {line col col' : Nat} (h : a.EndsBy line col) (hc : col ≤ col') :
    a.EndsBy line col' := by
  rcases h with h | ⟨hl, e, he, hle⟩
  · exact .inl h
  · exact .inr ⟨hl, e, he, by omega⟩

end Span

namespace Layout.Sheet

/-- A finished substitution as the sheet shows it: its prefix and `(` at its start, its `)` just
before its end, and something between them. -/
def HasSpan (g : Sheet) (a : Span) : Prop :=
  ∃ e, a.stop = some e ∧ a.start + 3 ≤ e ∧ g.At a.line a.start a.kind.prefixChar ∧
    g.At a.line (a.start + 1) '(' ∧ g.At a.line (e - 1) ')'

theorem HasSpan.push {g : Sheet} {a : Span} (h : g.HasSpan a) (x : Cell) :
    (g.push x).HasSpan a := by
  obtain ⟨e, he, hle, h1, h2, h3⟩ := h
  exact ⟨e, he, hle, h1.push x, h2.push x, h3.push x⟩

theorem HasSpan.close {g : Sheet} {a : Span} (h : g.HasSpan a) : g.close.HasSpan a := by
  obtain ⟨e, he, hle, h1, h2, h3⟩ := h
  exact ⟨e, he, hle, at_close.2 h1, at_close.2 h2, at_close.2 h3⟩

end Layout.Sheet

namespace Scanner

/-- The open substitution `sp`, opened at paren depth `d`: on the cursor's line, after every
finished one, its prefix written; either its `(` is written and the depth is still above `d`,
or its `(` is the next character to read. -/
def Opening (g : Sheet) (s : Scanner) (rest : List Char) (sp : Span) (d : Nat) : Prop :=
  sp.stop = none ∧ sp.line = s.line ∧ (∀ a ∈ s.spans.toList, a.Precedes sp) ∧
    g.At sp.line sp.start sp.kind.prefixChar ∧
    ((d < s.parens ∧ sp.start + 2 ≤ s.column ∧ g.At sp.line (sp.start + 1) '(') ∨
      (s.parens = d ∧ s.column = sp.start + 1 ∧ rest.head? = some '(' ∧ s.mode = .code ∧
        s.escaped = false))

/-- The reader `s`, with `rest` still to read, has written the sheet `g`. -/
structure Tracks (g : Sheet) (s : Scanner) (rest : List Char) : Prop where
  text : s.text.toList = renderCells g.cells
  line : s.line = g.closedLines
  column : s.column = g.current.length
  content : s.hasContent = filled g.current
  /-- Up to its first character that is not blank, a line starts from nothing. -/
  quiet : s.hasContent = false → s.mode = .code ∧ s.escaped = false ∧ s.parens = 0 ∧
    s.braces = 0 ∧ s.brackets = 0 ∧ s.pending = none
  noBreak : g.NoBreakCells
  finished : ∀ a ∈ s.spans.toList, g.HasSpan a
  opening : ∀ sp d, s.pending = some (sp, d) → Opening g s rest sp d
  order : s.spans.toList.Pairwise Span.Precedes
  frontier : ∀ a ∈ s.spans.toList, a.EndsBy s.line s.column
  unmatched : ∀ u ∈ s.unmatched.toList, g.At u.line u.column u.closer

theorem Tracks.init (t : List Char) : Tracks Sheet.empty {} t where
  text := rfl
  line := rfl
  column := rfl
  content := rfl
  quiet _ := ⟨rfl, rfl, rfl, rfl, rfl, rfl⟩
  noBreak := by simp [Sheet.NoBreakCells, Sheet.rows, Sheet.empty]
  finished := by simp
  opening := by simp
  order := by simp
  frontier := by simp
  unmatched := by simp

section Step

variable {g : Sheet} {s : Scanner} {c : Char} {rest : List Char}

theorem Opening.waiting_ne {sp : Span} {d : Nat} (h : Opening g s (c :: rest) sp d)
    (hc : c ≠ '(') :
    d < s.parens ∧ sp.start + 2 ≤ s.column ∧ g.At sp.line (sp.start + 1) '(' := by
  rcases h.2.2.2.2 with h | ⟨-, -, hd, -⟩
  · exact h
  · exact absurd (Option.some.inj hd) hc

theorem Tracks.char (h : Tracks g s (c :: rest)) (hc : c ≠ '\n') :
    Tracks (g.push (.char c)) (s.step c rest.head?) rest := by
  rw [step_of_ne _ _ hc]
  dsimp only
  have hrec := inMode_records { s with escaped := false } s.escaped c rest.head?
  have hspans := inMode_spans { s with escaped := false } s.escaped c rest.head?
  have hun := inMode_unmatched { s with escaped := false } s.escaped c rest.head?
  dsimp only at hrec hspans hun
  generalize hs' : ({ s with escaped := false } : Scanner).inMode s.escaped c rest.head? = s'
    at hrec hspans hun
  have hframe := inMode_frame { s with escaped := false } s.escaped c rest.head?
  rw [hs'] at hframe
  obtain ⟨-, hline, hcol, -, -⟩ := hframe
  dsimp only at hline hcol
  have hcur : (g.push (.char c)).At s.line s.column c ↔
      (g.push (.char c)).At g.closedLines g.current.length c := by
    rw [h.line, h.column]
  refine ⟨?text, ?line, ?column, ?content, ?quiet, ?noBreak, ?finished, ?opening, ?order,
    ?frontier, ?unmatched⟩
  case text => simp [String.toList_push, h.text]
  case line => simp [hline, h.line]
  case column => simp [h.column]
  case content => simp [h.content, Sheet.filled_append, Cell.blank]
  case quiet =>
    intro hq
    simp only [Bool.or_eq_false_iff, Bool.not_eq_false'] at hq
    obtain ⟨hm, he, hp, hb, hk, hn⟩ := h.quiet hq.1
    have hsame : s' = { s with escaped := false } := by
      rw [← hs', he, inMode_code { s with escaped := false } _ _ hm,
        code_of_not_special _ _ (not_special_of_isBlank hq.2)]
    subst hsame
    simp [hm, hp, hb, hk, hn]
  case noBreak => exact h.noBreak.push (by simpa using hc)
  case finished =>
    rcases hspans with hs | ⟨rfl, sp, hp, -, hs⟩
    · intro a ha
      exact (h.finished a (by simpa [hs] using ha)).push _
    · have hw := (h.opening sp _ hp).waiting_ne (by decide)
      obtain ⟨-, hl, -, hpre, -⟩ := h.opening sp _ hp
      intro a ha
      simp only [hs, Array.toList_push, List.mem_append, List.mem_singleton] at ha
      rcases ha with ha | rfl
      · exact (h.finished a ha).push _
      · refine ⟨s.column + 1, rfl, show sp.start + 3 ≤ s.column + 1 by omega, hpre.push _,
          hw.2.2.push _, ?_⟩
        simpa [hl] using hcur.2 (Sheet.at_push_char g (by decide))
  case opening =>
    intro sp d hp
    dsimp only at hp
    unfold Opening
    dsimp only
    rcases hrec with ⟨hpar, hpend, hsp⟩ | ⟨hm, he, rfl, hpar, hpend, hsp⟩ |
      ⟨rfl, hpos, hpar, ⟨sp', -, hpend, -⟩ | ⟨hne, hpend, hsp⟩⟩ | ⟨hm, he, hnone, hn, k, hk, hs⟩
    · obtain ⟨hstop, hl, hpre, hat, hw⟩ := h.opening sp d (hpend ▸ hp)
      refine ⟨hstop, by simpa [hline] using hl, by simpa [hsp] using hpre, hat.push _, .inl ?_⟩
      rcases hw with ⟨hd, hcol', hat'⟩ | ⟨hd, -, hn, hm, he⟩
      · exact ⟨by simpa [hpar] using hd, by simp; omega, hat'.push _⟩
      · cases Option.some.inj hn
        rw [← hs', he, inMode_code { s with escaped := false } _ _ hm, code_lparen] at hpar
        simp at hpar
    · obtain ⟨hstop, hl, hpre, hat, hw⟩ := h.opening sp d (hpend ▸ hp)
      refine ⟨hstop, by simpa [hline] using hl, by simpa [hsp] using hpre, hat.push _, .inl ?_⟩
      rcases hw with ⟨hd, hcol', hat'⟩ | ⟨hd, hcol', -, -, -⟩
      · exact ⟨by omega, by simp; omega, hat'.push _⟩
      · refine ⟨by omega, by simp; omega, ?_⟩
        have := hcur.2 (Sheet.at_push_char g (by decide))
        rwa [← hl, hcol'] at this
    · simp [hpend] at hp
    · have hp0 : s.pending = some (sp, d) := hpend ▸ hp
      obtain ⟨hstop, hl, hpre, hat, -⟩ := h.opening sp d hp0
      have hw := (h.opening sp d hp0).waiting_ne (by decide)
      have hd := hne sp d hp0
      refine ⟨hstop, by simpa [hline] using hl, by simpa [hsp] using hpre, hat.push _, .inl ?_⟩
      exact ⟨by omega, by simp; omega, hw.2.2.push _⟩
    · subst hs
      simp only [Option.some.injEq, Prod.mk.injEq] at hp
      obtain ⟨rfl, rfl⟩ := hp
      obtain rfl := prefixChar_of_ofPrefix? hk
      refine ⟨rfl, rfl, ?_, hcur.2 (Sheet.at_push_char g (isBlank_prefixChar k)),
        .inr ⟨rfl, rfl, by simpa using hn, hm, rfl⟩⟩
      intro a ha
      exact h.frontier a ha
  case order =>
    rcases hspans with hs | ⟨rfl, sp, hp, -, hs⟩
    · simpa [hs] using h.order
    · obtain ⟨-, -, hpre, -⟩ := h.opening sp _ hp
      simp only [hs, Array.toList_push, List.pairwise_append, List.pairwise_singleton,
        List.mem_singleton, forall_eq]
      exact ⟨h.order, trivial, fun a ha => hpre a ha⟩
  case frontier =>
    rcases hspans with hs | ⟨rfl, sp, hp, -, hs⟩
    · intro a ha
      simpa [hline] using (h.frontier a (by simpa [hs] using ha)).mono (Nat.le_succ _)
    · obtain ⟨-, hl, -⟩ := h.opening sp _ hp
      intro a ha
      simp only [hs, Array.toList_push, List.mem_append, List.mem_singleton] at ha
      rcases ha with ha | rfl
      · simpa [hline] using (h.frontier a ha).mono (Nat.le_succ _)
      · exact .inr ⟨by simpa [hline] using hl, s.column + 1, rfl, Nat.le_refl _⟩
  case unmatched =>
    rcases hun with hu | ⟨hu, hb⟩
    · intro u hm
      exact (h.unmatched u (by simpa [hu] using hm)).push _
    · intro u hm
      simp only [hu, Array.toList_push, List.mem_append, List.mem_singleton] at hm
      rcases hm with hm | rfl
      · exact (h.unmatched u hm).push _
      · exact hcur.2 (Sheet.at_push_char g hb)

theorem Tracks.soft (h : Tracks g s ('\n' :: rest)) (hs : s.softBreak s.escaped = true) :
    Tracks (g.push .soft) (s.step '\n' rest.head?) rest := by
  rw [step_newline, newline_of_softBreak _ _ (by simpa [softBreak] using hs)]
  dsimp only
  have hfilled : s.hasContent = true := by
    cases hq : s.hasContent
    · obtain ⟨hm, he, hp, hb, hk, -⟩ := h.quiet hq
      simp [softBreak, hm, he, hp, hb, hk] at hs
    · rfl
  refine ⟨?text, h.line, by simp [h.column], ?content, fun hq => absurd hq (by simp [hfilled]),
    h.noBreak.push (by simp), fun a ha => (h.finished a ha).push _, ?opening, h.order,
    fun a ha => (h.frontier a ha).mono (Nat.le_succ _), fun u hu => (h.unmatched u hu).push _⟩
  case text => simp [String.toList_append, h.text, marker, markerChars]
  case content => simp [← h.content, hfilled, Sheet.filled_append]
  case opening =>
    intro sp d hp
    obtain ⟨hstop, hl, hpre, hat, -⟩ := h.opening sp d hp
    have hw := (h.opening sp d hp).waiting_ne (by decide)
    exact ⟨hstop, hl, hpre, hat.push _,
      .inl ⟨hw.1, show sp.start + 2 ≤ s.column + 1 by omega, hw.2.2.push _⟩⟩

theorem Tracks.pending_eq_none (h : Tracks g s ('\n' :: rest)) (hs : s.softBreak s.escaped = false) :
    s.pending = none := by
  cases hp : s.pending with
  | none => rfl
  | some p =>
    have hw := (h.opening p.1 p.2 hp).waiting_ne (by decide)
    simp [softBreak] at hs
    omega

theorem Tracks.hard (h : Tracks g s ('\n' :: rest)) (hs : s.softBreak s.escaped = false) :
    Tracks g.close (s.step '\n' rest.head?) rest := by
  have hnone := h.pending_eq_none hs
  rw [step_newline, newline_of_not_softBreak _ _ (by simpa [softBreak] using hs)]
  dsimp only
  refine ⟨?text, ?line, rfl, rfl, fun _ => ?quiet, h.noBreak.close,
    fun a ha => (h.finished a ha).close, ?opening, h.order, ?frontier,
    fun u hu => Sheet.at_close.2 (h.unmatched u hu)⟩
  case text => simp [String.toList_push, h.text]
  case line =>
    simp only [Sheet.closedLines_close, h.line, h.content]
    split <;> rfl
  case quiet =>
    simp only [softBreak, Bool.or_eq_false_iff, bne_eq_false_iff_eq, beq_eq_false_iff_ne] at hs
    exact ⟨rfl, rfl, hs.1.1.1.2, hs.1.1.2, hs.1.2, hnone⟩
  case opening => simp [hnone]
  case frontier =>
    intro a ha
    unfold Span.EndsBy
    dsimp only
    have hline := h.line
    rcases h.frontier a ha with hl | ⟨hl, -⟩
    · exact .inl (by split <;> omega)
    · obtain ⟨-, -, -, hat, -⟩ := h.finished a ha
      rcases hat.line_le with hlt | ⟨-, hf, -⟩
      · omega
      · exact .inl (by rw [h.content, hf]; simp; omega)

/-- The sheet after `s` reads `c`: a cell for a character other than a newline, the marker cell
for a soft newline, a closed row for a hard one. -/
def sheetStep (s : Scanner) (g : Sheet) (c : Char) : Sheet :=
  if c = '\n' then (if s.softBreak s.escaped then g.push .soft else g.close)
  else g.push (.char c)

/-- The sheet after `s` reads a list of characters. -/
def sheetRun (s : Scanner) (g : Sheet) : List Char → Sheet
  | [] => g
  | c :: rest => (s.step c rest.head?).sheetRun (s.sheetStep g c) rest

@[simp] theorem sourceCells_sheetStep (s : Scanner) (g : Sheet) (c : Char) :
    sourceCells (s.sheetStep g c).cells = sourceCells g.cells ++ [c] := by
  unfold sheetStep
  by_cases hc : c = '\n'
  · subst hc
    cases s.softBreak s.escaped <;> simp
  · simp [hc]

theorem sourceCells_sheetRun (s : Scanner) (g : Sheet) (rest : List Char) :
    sourceCells (s.sheetRun g rest).cells = sourceCells g.cells ++ rest := by
  induction rest generalizing g s with
  | nil => simp [sheetRun]
  | cons c rest ih => simp [sheetRun, ih]

theorem Tracks.step (h : Tracks g s (c :: rest)) :
    Tracks (s.sheetStep g c) (s.step c rest.head?) rest := by
  unfold sheetStep
  by_cases hc : c = '\n'
  · subst hc
    cases hs : s.softBreak s.escaped
    · rw [if_pos rfl, if_neg (by simp)]
      exact h.hard hs
    · rw [if_pos rfl, if_pos rfl]
      exact h.soft hs
  · rw [if_neg hc]
    exact h.char hc

/-- Reading the rest of a script keeps the invariant. -/
theorem Tracks.run (h : Tracks g s rest) : Tracks (s.sheetRun g rest) (s.run rest) [] := by
  induction rest generalizing g s with
  | nil => exact h
  | cons c rest ih => exact ih h.step

end Step

end Scanner

end MixedScript
