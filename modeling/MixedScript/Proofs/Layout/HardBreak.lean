import MixedScript.Proofs.Layout.OfSource
import Mathlib.Tactic.SplitIfs

/-!
# Reading on from a hard break

Nothing the layout tracks inside a statement outlives a hard newline. `Scanner.after base s` is
the reader `s` continuing where `base` stopped, and reading commutes with it (`run_after`). So
a script that breaks hard after `a` is laid out as `a`, the newline, and the rest laid out
alone (`ofSource_append_hardBreak`).
-/

namespace MixedScript

open MixedScript.Text MixedScript.Layout

/-- The substitution moved `k` logical lines down. -/
def Span.shiftLine (k : Nat) (a : Span) : Span :=
  { a with line := a.line + k }

/-- The unmatched closer moved `k` logical lines down. -/
def Unmatched.shiftLine (k : Nat) (u : Unmatched) : Unmatched :=
  { u with line := u.line + k }

theorem Text.append_push (a b : String) (c : Char) : (a ++ b).push c = a ++ b.push c := by
  rw [String.push_eq_append, String.push_eq_append, String.append_assoc]

namespace Scanner

/-- The reader `s` continuing where `base` stopped: the lexical state and the cursor are those
of `s`; the text and the records of `base` come first, and the lines of `s` are counted on
from those of `base`. -/
def after (base s : Scanner) : Scanner :=
  { s with line := s.line + base.line, text := base.text ++ s.text, prev := s.prev <|> base.prev,
           pending := s.pending.map fun p => (p.1.shiftLine base.line, p.2),
           spans := base.spans ++ s.spans.map (Span.shiftLine base.line),
           unmatched := base.unmatched ++ s.unmatched.map (Unmatched.shiftLine base.line) }

section After

variable (base s : Scanner)

theorem after_mode : (base.after s).mode = s.mode := rfl

theorem after_parens : (base.after s).parens = s.parens := rfl

theorem after_braces : (base.after s).braces = s.braces := rfl

theorem after_brackets : (base.after s).brackets = s.brackets := rfl

theorem softBreak_after (e : Bool) : (base.after s).softBreak e = s.softBreak e := rfl

theorem unmatchedAt_after (ch : Char) :
    (base.after s).unmatchedAt ch = base.after (s.unmatchedAt ch) := by
  simp [after, unmatchedAt, Unmatched.shiftLine]

theorem finishSpan_after : (base.after s).finishSpan = base.after s.finishSpan := by
  unfold finishSpan
  cases hp : s.pending with
  | none => simp [after, hp]
  | some p =>
    by_cases hd : s.parens = p.2
    · simp [after, hp, hd, Span.shiftLine]
    · simp [after, hp, hd]

theorem openSpan_after (k : SubstKind) : (base.after s).openSpan k = base.after (s.openSpan k) := by
  unfold openSpan
  cases hp : s.pending <;> simp [after, hp, Span.shiftLine]

theorem newline_after (e : Bool) : (base.after s).newline e = base.after (s.newline e) := by
  cases hs : s.softBreak e
  · rw [newline_of_not_softBreak _ _ ((softBreak_after base s e).trans hs),
      newline_of_not_softBreak _ _ hs]
    simp only [after, String.push_eq_append, String.append_assoc]
    split <;> simp_all [Nat.add_right_comm]
  · rw [newline_of_softBreak _ _ ((softBreak_after base s e).trans hs), newline_of_softBreak _ _ hs]
    simp [after, String.append_assoc]

/-! The only thing `base` can change in what `s` does next is whether a `#` starts a comment,
which reads the character before it; at a line start `base` has just read a blank. -/

section BlankBefore

variable (hb : base.prev.all isBlank = true)
include hb

theorem prev_all_after : (base.after s).prev.all isBlank = s.prev.all isBlank := by
  cases h : s.prev <;> simp [after, h, hb]

theorem code_after (c : Char) (n : Option Char) :
    (base.after s).code c n = base.after (s.code c n) := by
  unfold code
  split
  case h_4 =>
    rw [prev_all_after base s hb]
    split <;> rfl
  case h_8 =>
    rw [after_parens]
    split
    · exact unmatchedAt_after base s _
    · exact finishSpan_after base { s with parens := s.parens - 1 }
  case h_9 =>
    rw [after_braces]
    split
    · exact unmatchedAt_after base s _
    · rfl
  case h_10 =>
    rw [after_brackets]
    split
    · exact unmatchedAt_after base s _
    · rfl
  case h_11 =>
    split
    · exact openSpan_after base s _
    · rfl
  all_goals rfl

theorem inMode_after (e : Bool) (c : Char) (n : Option Char) :
    (base.after s).inMode e c n = base.after (s.inMode e c n) := by
  unfold inMode
  rw [after_mode]
  cases s.mode
  case code =>
    cases e
    · exact code_after base s hb c n
    · rfl
  case comment => rfl
  all_goals
    dsimp only
    split_ifs <;> rfl

theorem step_after (c : Char) (n : Option Char) :
    (base.after s).step c n = base.after (s.step c n) := by
  by_cases hc : c = '\n'
  · rw [hc, step_newline, step_newline]
    exact newline_after base { s with escaped := false } s.escaped
  · rw [step_of_ne _ _ hc, step_of_ne _ _ hc]
    dsimp only
    rw [show { base.after s with escaped := false } = base.after { s with escaped := false } from rfl,
      inMode_after base _ hb]
    simp [after, append_push]

theorem run_after (cs : List Char) : (base.after s).run cs = base.after (s.run cs) := by
  induction cs generalizing s with
  | nil => rfl
  | cons c cs ih => rw [run_cons, run_cons, step_after base s hb, ih]

end BlankBefore

theorem allSpans_after :
    (base.after s).allSpans = base.spans.toList ++ s.allSpans.map (Span.shiftLine base.line) := by
  rw [allSpans_eq, allSpans_eq]
  cases hp : s.pending <;> simp [after, hp]

end After

theorem code_lookahead (s : Scanner) (c : Char) {x : Char} (hx : x ≠ '(') :
    s.code c (some x) = s.code c none := by
  unfold code
  split
  case h_11 => split <;> simp_all
  all_goals rfl

theorem step_lookahead (s : Scanner) (c : Char) {x : Char} (hx : x ≠ '(') :
    s.step c (some x) = s.step c none := by
  simp only [step, inMode, code_lookahead _ _ hx]

theorem run_append_cons (s : Scanner) (a : List Char) {c : Char} (hc : c ≠ '(')
    (rest : List Char) : s.run (a ++ c :: rest) = ((s.run a).step c rest.head?).run rest := by
  induction a generalizing s with
  | nil => rfl
  | cons x a ih =>
    cases a with
    | nil => simp [step_lookahead _ _ hc]
    | cons y a => simpa using ih (s.step x (some y))

/-- The reader at the start of a statement: in code, with nothing escaped, open or written. -/
def AtLineStart (s : Scanner) : Prop :=
  s.mode = .code ∧ s.escaped = false ∧ s.parens = 0 ∧ s.braces = 0 ∧ s.brackets = 0 ∧
    s.column = 0 ∧ s.hasContent = false ∧ s.pending = none

theorem after_init {s : Scanner} (h : s.AtLineStart) : s.after {} = s := by
  obtain ⟨hm, he, hp, hb, hk, hc, hh, hn⟩ := h
  cases s
  simp_all [after]

theorem Tracks.pending_eq_none_of_done {g : Sheet} {s : Scanner} (h : Tracks g s [])
    (hp : s.parens = 0) : s.pending = none := by
  cases hpend : s.pending with
  | none => rfl
  | some p =>
    rcases (h.opening p.1 p.2 hpend).2.2.2.2 with ⟨hd, -⟩ | ⟨-, -, hn, -⟩
    · omega
    · cases hn

theorem Tracks.length_logicalLines {g : Sheet} {s : Scanner} {rest : List Char}
    (h : Tracks g s rest) :
    (logicalLines s.text).length = if s.hasContent then s.line + 1 else s.line := by
  rw [text_eq_ofList h, Sheet.logicalLines_cells h.noBreak, List.length_map, Sheet.lines_eq,
    h.line, h.content]
  unfold Sheet.closedLines
  split <;> simp_all

theorem step_newline_hard {s : Scanner} (hs : s.softBreak s.escaped = false)
    (hn : s.pending = none) (n : Option Char) : (s.step '\n' n).AtLineStart := by
  rw [step_newline, newline_of_not_softBreak { s with escaped := false } s.escaped hs]
  simp only [softBreak, Bool.or_eq_false_iff, bne_eq_false_iff_eq] at hs
  exact ⟨rfl, rfl, hs.1.1.1.2, hs.1.1.2, hs.1.2, rfl, rfl, hn⟩

end Scanner

namespace Layout

open Scanner

theorem softBreak_eq_false_of_getLast? {a : String}
    (h : (Layout.ofSource (a ++ "\n")).text.toList.getLast? = some '\n') :
    (Scanner.run {} a.toList).softBreak (Scanner.run {} a.toList).escaped = false := by
  have hrun : Scanner.run {} (a ++ "\n").toList = (Scanner.run {} a.toList).step '\n' none := by
    simpa using run_append_cons {} a.toList (show '\n' ≠ '(' by decide) []
  rw [ofSource_text, hrun, step_newline] at h
  cases hs : (Scanner.run {} a.toList).softBreak (Scanner.run {} a.toList).escaped with
  | false => rfl
  | true =>
    have hlast : marker.toList.getLast? = some '\uE001' := by decide
    rw [newline_of_softBreak { Scanner.run {} a.toList with escaped := false } _ hs,
      String.toList_append, List.getLast?_append, hlast] at h
    simp at h

/-- No lexical state of a statement (quotes, comment, escape, brackets, open substitution)
carries past a hard break: after one, the rest of a script is laid out as if it stood alone,
its records moved down by the statements before the break. -/
theorem ofSource_append_hardBreak (a b : String)
    (hhard : (Layout.ofSource (a ++ "\n")).text.toList.getLast? = some '\n') :
    Layout.ofSource (a ++ "\n" ++ b) =
      { text := (Layout.ofSource a).text ++ "\n" ++ (Layout.ofSource b).text
        spans := (Layout.ofSource a).spans ++ (Layout.ofSource b).spans.map
          (Span.shiftLine (logicalLines (Layout.ofSource a).text).length)
        unmatched := (Layout.ofSource a).unmatched ++ (Layout.ofSource b).unmatched.map
          (Unmatched.shiftLine (logicalLines (Layout.ofSource a).text).length) } := by
  have hsoft := softBreak_eq_false_of_getLast? hhard
  have ht := Sheet.tracks_ofSource a
  generalize hsa : Scanner.run {} a.toList = sa at hsoft ht
  have hnone : sa.pending = none := by
    simp only [softBreak, Bool.or_eq_false_iff, bne_eq_false_iff_eq] at hsoft
    exact ht.pending_eq_none_of_done hsoft.1.1.1.2
  have hpost : sa.step '\n' b.toList.head? =
      { sa with escaped := false, mode := .code, text := sa.text.push '\n',
                line := if sa.hasContent then sa.line + 1 else sa.line, column := 0,
                hasContent := false, prev := some '\n' } := by
    rw [step_newline, newline_of_not_softBreak { sa with escaped := false } sa.escaped hsoft]
  -- After the break the reader is the initial one, continuing where `a` left off.
  have hrun : Scanner.run {} (a ++ "\n" ++ b).toList =
      (sa.step '\n' b.toList.head?).after (Scanner.run {} b.toList) :=
    calc Scanner.run {} (a ++ "\n" ++ b).toList = (sa.step '\n' b.toList.head?).run b.toList := by
          rw [show (a ++ "\n" ++ b).toList = a.toList ++ '\n' :: b.toList by simp,
            run_append_cons _ _ (by decide), hsa]
      _ = ((sa.step '\n' b.toList.head?).after {}).run b.toList := by
          rw [after_init (step_newline_hard hsoft hnone _)]
      _ = (sa.step '\n' b.toList.head?).after (Scanner.run {} b.toList) :=
          run_after _ _ (by rw [hpost]; rfl) _
  have hk : (logicalLines sa.text).length = (sa.step '\n' b.toList.head?).line := by
    rw [ht.length_logicalLines, hpost]
  simp only [Layout.ofSource, hrun, hsa, allSpans_after, hk]
  rw [hpost]
  simp [after, allSpans_eq, hnone, String.push_eq_append, String.append_assoc]

theorem ofSource_append_hardBreak_quoted :
    (Layout.ofSource ("echo 'unterminated" ++ "\n")).text.toList.getLast? = some '\n' ∧
      Layout.ofSource ("echo 'unterminated" ++ "\n" ++ "ls (\n)") =
        { text := (Layout.ofSource "echo 'unterminated").text ++ "\n" ++
            (Layout.ofSource "ls (\n)").text
          spans := (Layout.ofSource "echo 'unterminated").spans ++
            (Layout.ofSource "ls (\n)").spans.map
              (Span.shiftLine (logicalLines (Layout.ofSource "echo 'unterminated").text).length)
          unmatched := (Layout.ofSource "echo 'unterminated").unmatched ++
            (Layout.ofSource "ls (\n)").unmatched.map
              (Unmatched.shiftLine
                (logicalLines (Layout.ofSource "echo 'unterminated").text).length) } :=
  have h : (Layout.ofSource ("echo 'unterminated" ++ "\n")).text.toList.getLast? = some '\n' := by
    decide
  ⟨h, ofSource_append_hardBreak _ _ h⟩

end Layout

end MixedScript
