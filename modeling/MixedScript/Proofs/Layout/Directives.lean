import MixedScript.Proofs.Layout.OfSource
import MixedScript.Proofs.Directive.Shape

/-!
# Directive lines in the layout

A line shaped like a directive is plain code up to an optional comment after a blank. The reader
crosses its plain part without changing its lexical state and its comment in comment mode, so
such a line ends at the first newline and no substitution is recorded on it.
`Scanner.SparesDirectives` says so of the row being read and of every row already written; it
holds at the start and every step keeps it.
-/

namespace MixedScript

open MixedScript.Text MixedScript.Scope MixedScript.Layout MixedScript.Directive

namespace Directive

theorem isLeadChar_prefixChar (k : SubstKind) : isLeadChar k.prefixChar = false := by
  cases k <;> decide

theorem prefixChar_ne_hash (k : SubstKind) : k.prefixChar ≠ '#' := by
  cases k <;> decide

theorem not_special_of_isLeadChar {c : Char} (h : isLeadChar c = true) :
    c ∉ Scanner.specialChars := by
  have hs : Scanner.specialChars.all (fun x => !isLeadChar x) = true := by decide
  intro hc
  simpa [h] using List.all_eq_true.1 hs c hc

theorem not_remarked_nil : ¬ Remarked [] := by
  rintro ⟨pre, com, h, -⟩
  simp at h

end Directive

namespace Layout.Sheet

/-- Logical line `line` is written and is not shaped like a directive. -/
def Unshaped (g : Sheet) (line : Nat) : Prop :=
  ∃ r, g.lines[line]? = some r ∧ ¬ Shaped (renderCells r)

theorem Unshaped.push {g : Sheet} {line : Nat} (h : g.Unshaped line) (x : Cell) :
    (g.push x).Unshaped line := by
  obtain ⟨r, hr, hn⟩ := h
  rcases getElem?_lines_push hr x with hr' | ⟨-, rfl, hr'⟩
  · exact ⟨r, hr', hn⟩
  · refine ⟨g.current ++ [x], hr', fun hs => hn ?_⟩
    rw [renderCells_append] at hs
    exact hs.of_append

theorem Unshaped.close {g : Sheet} {line : Nat} (h : g.Unshaped line) : g.close.Unshaped line := by
  simpa [Unshaped] using h

end Layout.Sheet

namespace Scanner

/-- Nothing escaped and nothing open. -/
def Idle (s : Scanner) : Prop :=
  s.escaped = false ∧ s.parens = 0 ∧ s.braces = 0 ∧ s.brackets = 0 ∧ s.pending = none

theorem Idle.softBreak {s : Scanner} (h : s.Idle) (hm : s.mode ≠ .double) :
    s.softBreak s.escaped = false := by
  obtain ⟨he, hp, hb, hk, -⟩ := h
  simp [Scanner.softBreak, he, hp, hb, hk, hm]

/-- Rows shaped like directives are read as plain code and a comment. While the current row is
plain the reader is idle in code, with the row's last character as the previous one; once the
row has its comment the reader is idle in comment mode. Such rows hold no soft break, and every
recorded substitution lies on a logical line that is not shaped like a directive. -/
structure SparesDirectives (g : Sheet) (s : Scanner) : Prop where
  plain : Plain (renderCells g.current) → s.mode = .code ∧ s.Idle ∧ Cell.soft ∉ g.current ∧
    ∀ b, (renderCells g.current).getLast? = some b → s.prev = some b
  remarked : Remarked (renderCells g.current) → s.mode = .comment ∧ s.Idle ∧
    Cell.soft ∉ g.current
  closed : ∀ r ∈ g.closed, Shaped (renderCells r) → Cell.soft ∉ r
  spans : ∀ a ∈ s.spans.toList, g.Unshaped a.line
  pending : ∀ sp d, s.pending = some (sp, d) → g.Unshaped sp.line

theorem SparesDirectives.init : SparesDirectives Sheet.empty {} where
  plain _ := ⟨rfl, ⟨rfl, rfl, rfl, rfl, rfl⟩, by simp [Sheet.empty], by simp [Sheet.empty]⟩
  remarked h := absurd h (by simpa [Sheet.empty] using not_remarked_nil)
  closed := by simp [Sheet.empty]
  spans := by simp
  pending := by simp

section Step

variable {g : Sheet} {s : Scanner} {c : Char} {rest : List Char}

theorem SparesDirectives.softBreak_eq_false (h : SparesDirectives g s)
    (hs : Shaped (renderCells g.current)) : s.softBreak s.escaped = false := by
  rcases hs with hp | hr
  · obtain ⟨hm, hi, -⟩ := h.plain hp
    exact hi.softBreak (by simp [hm])
  · obtain ⟨hm, hi, -⟩ := h.remarked hr
    exact hi.softBreak (by simp [hm])

theorem SparesDirectives.not_shaped_of_open (h : SparesDirectives g s) (hm : s.mode = .code)
    {k : SubstKind} : ¬ Shaped (renderCells g.current ++ [k.prefixChar]) := by
  rintro (hp | hr)
  · simp [isLeadChar_prefixChar] at hp
  · rcases remarked_append_singleton hr with hr | ⟨hk, -⟩
    · simp [(h.remarked hr).1] at hm
    · exact prefixChar_ne_hash k hk

theorem SparesDirectives.char (ht : Tracks g s (c :: rest)) (h : SparesDirectives g s)
    (hc : c ≠ '\n') : SparesDirectives (g.push (.char c)) (s.step c rest.head?) := by
  rw [step_of_ne _ _ hc]
  dsimp only
  have hrec := inMode_records { s with escaped := false } s.escaped c rest.head?
  have hspans := inMode_spans { s with escaped := false } s.escaped c rest.head?
  dsimp only at hrec hspans
  generalize hs' : ({ s with escaped := false } : Scanner).inMode s.escaped c rest.head? = s'
    at hrec hspans
  have hrow : renderCells (g.push (.char c)).current = renderCells g.current ++ [c] := by simp
  refine ⟨fun hp => ?_, fun hr => ?_, fun r hr => h.closed r hr, ?_, ?_⟩
  · rw [hrow, plain_append] at hp
    obtain ⟨hm, ⟨he, hpar, hbr, hbk, hpend⟩, hsoft, -⟩ := h.plain hp.1
    have hlead : isLeadChar c = true := by simpa using hp.2
    have hsame : s' = { s with escaped := false } := by
      rw [← hs', he, inMode_code { s with escaped := false } _ _ hm,
        code_of_not_special _ _ (not_special_of_isLeadChar hlead)]
    subst hsame
    refine ⟨hm, ⟨rfl, hpar, hbr, hbk, hpend⟩, by simp [hsoft], fun b hb => ?_⟩
    rw [hrow, List.getLast?_concat] at hb
    simpa using hb
  · rw [hrow] at hr
    rcases remarked_append_singleton hr with hr | ⟨rfl, hp, b, hb, hbl⟩
    · obtain ⟨hm, ⟨he, hpar, hbr, hbk, hpend⟩, hsoft⟩ := h.remarked hr
      have hsame : s' = { s with escaped := false } := by
        rw [← hs', inMode_comment { s with escaped := false } _ _ _ hm]
      subst hsame
      exact ⟨hm, ⟨rfl, hpar, hbr, hbk, hpend⟩, by simp [hsoft]⟩
    · obtain ⟨hm, ⟨he, hpar, hbr, hbk, hpend⟩, hsoft, hprev⟩ := h.plain hp
      have hsame : s' = { s with escaped := false, mode := .comment } := by
        rw [← hs', he, inMode_code { s with escaped := false } _ _ hm,
          code_hash { s with escaped := false } _ (by simp [hprev b hb, isBlank_of_isInlineBlank hbl])]
      subst hsame
      exact ⟨rfl, ⟨rfl, hpar, hbr, hbk, hpend⟩, by simp [hsoft]⟩
  · rcases hspans with hsp | ⟨-, sp, hp, -, hsp⟩
    · intro a ha
      exact (h.spans a (by simpa [hsp] using ha)).push _
    · intro a ha
      simp only [hsp, Array.toList_push, List.mem_append, List.mem_singleton] at ha
      rcases ha with ha | rfl
      · exact (h.spans a ha).push _
      · exact (h.pending sp _ hp).push _
  · intro sp d hp
    dsimp only at hp
    rcases hrec with ⟨-, hpend, -⟩ | ⟨-, -, -, -, hpend, -⟩ |
      ⟨-, -, -, ⟨sp', -, hpend, -⟩ | ⟨-, hpend, -⟩⟩ | ⟨hm, -, -, -, k, hk, hs⟩
    · exact (h.pending sp d (hpend ▸ hp)).push _
    · exact (h.pending sp d (hpend ▸ hp)).push _
    · simp [hpend] at hp
    · exact (h.pending sp d (hpend ▸ hp)).push _
    · subst hs
      simp only [Option.some.injEq, Prod.mk.injEq] at hp
      obtain ⟨rfl, -⟩ := hp
      obtain rfl := prefixChar_of_ofPrefix? hk
      refine ⟨g.current ++ [.char k.prefixChar], ?_, fun hs => ?_⟩
      · rw [ht.line]
        exact Sheet.getElem?_lines_push_char g (isBlank_prefixChar k)
      · exact h.not_shaped_of_open hm (by simpa using hs)

theorem SparesDirectives.soft (h : SparesDirectives g s) (hs : s.softBreak s.escaped = true) :
    SparesDirectives (g.push .soft) (s.step '\n' rest.head?) := by
  have hns : ¬ Shaped (renderCells g.current) := fun hd => by
    simp [h.softBreak_eq_false hd] at hs
  rw [step_newline, newline_of_softBreak _ _ (by simpa [softBreak] using hs)]
  have hrow : renderCells (g.push .soft).current = renderCells g.current ++ markerChars := by simp
  refine ⟨fun hp => ?_, fun hr => ?_, fun r hr => h.closed r hr, fun a ha => (h.spans a ha).push _,
    fun sp d hp => (h.pending sp d hp).push _⟩
  · rw [hrow] at hp
    exact absurd (Shaped.of_append (.inl hp)) hns
  · rw [hrow] at hr
    exact absurd hr.of_append hns

theorem SparesDirectives.hard (ht : Tracks g s ('\n' :: rest)) (h : SparesDirectives g s)
    (hs : s.softBreak s.escaped = false) :
    SparesDirectives g.close (s.step '\n' rest.head?) := by
  have hnone := ht.pending_eq_none hs
  rw [step_newline, newline_of_not_softBreak _ _ (by simpa [softBreak] using hs)]
  simp only [softBreak, Bool.or_eq_false_iff, bne_eq_false_iff_eq, beq_eq_false_iff_ne] at hs
  refine ⟨fun _ => ⟨rfl, ⟨rfl, hs.1.1.1.2, hs.1.1.2, hs.1.2, hnone⟩, by simp, by simp⟩,
    fun hr => absurd hr (by simpa using not_remarked_nil), fun r hr hd => ?_,
    fun a ha => (h.spans a ha).close, fun sp d hp => (h.pending sp d hp).close⟩
  simp only [Sheet.close_closed, List.mem_append, List.mem_singleton] at hr
  rcases hr with hr | rfl
  · exact h.closed r hr hd
  · rcases hd with hp | hr
    · exact (h.plain hp).2.2.1
    · exact (h.remarked hr).2.2

theorem SparesDirectives.step (ht : Tracks g s (c :: rest)) (h : SparesDirectives g s) :
    SparesDirectives (s.sheetStep g c) (s.step c rest.head?) := by
  unfold sheetStep
  by_cases hc : c = '\n'
  · subst hc
    cases hs : s.softBreak s.escaped
    · rw [if_pos rfl, if_neg (by simp)]
      exact h.hard ht hs
    · rw [if_pos rfl, if_pos rfl]
      exact h.soft hs
  · rw [if_neg hc]
    exact h.char ht hc

theorem SparesDirectives.run (ht : Tracks g s rest) (h : SparesDirectives g s) :
    SparesDirectives (s.sheetRun g rest) (s.run rest) := by
  induction rest generalizing g s with
  | nil => exact h
  | cons c rest ih => exact ih ht.step (h.step ht)

end Step

section Final

variable {g : Sheet} {s : Scanner}

theorem SparesDirectives.soft_not_mem (h : SparesDirectives g s) {r : List Cell} (hr : r ∈ g.rows)
    (hs : Shaped (renderCells r)) : Cell.soft ∉ r := by
  simp only [Sheet.rows, List.mem_append, List.mem_singleton] at hr
  rcases hr with hr | rfl
  · exact h.closed r hr hs
  · rcases hs with hp | hr
    · exact (h.plain hp).2.2.1
    · exact (h.remarked hr).2.2

theorem SparesDirectives.line_ne (h : SparesDirectives g s) {a : Span} (ha : a ∈ s.allSpans)
    {i : Nat} {r : List Cell} (hr : g.lines[i]? = some r) (hs : Shaped (renderCells r)) :
    a.line ≠ i := by
  have hu : g.Unshaped a.line := by
    rcases mem_allSpans.1 ha with ha | ⟨d, hp⟩
    · exact h.spans a ha
    · exact h.pending a d hp
  rintro rfl
  obtain ⟨r', hr', hn⟩ := hu
  obtain rfl : r = r' := Option.some.inj (hr.symm.trans hr')
  exact hn hs

end Final

end Scanner

namespace Layout

open MixedScript.Scanner

theorem Sheet.spares_ofSource (t : String) :
    SparesDirectives (Sheet.ofSource t) (Scanner.run {} t.toList) :=
  SparesDirectives.init.run (Tracks.init t.toList)

/-- A logical line of a script without markers that is shaped like a directive holds no marker
and no inline substitution. -/
theorem shaped_line_spared (t : String) (ht : MarkerFree t.toList) {i : Nat} {l : String}
    (hl : (logicalLines (Layout.ofSource t).text)[i]? = some l) (hd : Shaped l.toList) :
    MarkerFree l.toList ∧ ∀ sp ∈ (Layout.ofSource t).spans, sp.line ≠ i := by
  have hs := Sheet.spares_ofSource t
  obtain ⟨r, hr, hrow, hf, rfl⟩ := Sheet.row_of_logicalLines ht hl
  rw [String.toList_ofList] at hd ⊢
  refine ⟨?_, fun sp hsp => hs.line_ne hsp hr hd⟩
  rwa [renderCells_eq_sourceCells (hs.soft_not_mem hrow hd)]

end Layout

end MixedScript
