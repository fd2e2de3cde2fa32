import MixedScript.Layout.Scan

/-!
# One character of the layout

What reading one character can change. `Scanner.inMode` moves only the lexical state (mode,
escape, bracket depths) and the records (the open substitution, the finished ones and the
unmatched closers); writing the character, the marker or a newline, and moving the cursor, is
left to `Scanner.step`. The lemmas here say so once, so that the invariants of the layout are
proved from them and never by unfolding the reader.
-/

namespace MixedScript.Scanner

open MixedScript.Text MixedScript.Layout

/-- The characters that code reacts to; every other character leaves the reader as it is. -/
def specialChars : List Char :=
  ['\\', '\'', '"', '#', '(', '{', '[', ')', '}', ']', '$', '?', '!']

theorem ofPrefix?_eq_none {c : Char} (h : c ∉ specialChars) : SubstKind.ofPrefix? c = none := by
  unfold SubstKind.ofPrefix?
  split <;> simp_all [specialChars]

theorem prefixChar_of_ofPrefix? {c : Char} {k : SubstKind} (h : SubstKind.ofPrefix? c = some k) :
    k.prefixChar = c := by
  unfold SubstKind.ofPrefix? at h
  split at h <;> cases h <;> rfl

theorem isBlank_prefixChar (k : SubstKind) : isBlank k.prefixChar = false := by
  cases k <;> rfl

theorem not_special_of_isBlank {c : Char} (h : isBlank c = true) : c ∉ specialChars := by
  intro hc
  simp only [specialChars, List.mem_cons, List.not_mem_nil, or_false] at hc
  rcases hc with rfl | rfl | rfl | rfl | rfl | rfl | rfl | rfl | rfl | rfl | rfl | rfl | rfl <;>
    simp [isBlank] at h

theorem code_of_not_special (s : Scanner) {c : Char} (n : Option Char) (h : c ∉ specialChars) :
    s.code c n = s := by
  have hk := ofPrefix?_eq_none h
  unfold code
  split <;> (try simp [specialChars] at h)
  rw [hk]

theorem code_frame (s : Scanner) (c : Char) (n : Option Char) :
    (s.code c n).text = s.text ∧ (s.code c n).line = s.line ∧ (s.code c n).column = s.column ∧
      (s.code c n).hasContent = s.hasContent ∧ (s.code c n).prev = s.prev := by
  unfold code unmatchedAt finishSpan openSpan
  split <;> (repeat' split) <;> simp

theorem inMode_frame (s : Scanner) (e : Bool) (c : Char) (n : Option Char) :
    (s.inMode e c n).text = s.text ∧ (s.inMode e c n).line = s.line ∧
      (s.inMode e c n).column = s.column ∧ (s.inMode e c n).hasContent = s.hasContent ∧
      (s.inMode e c n).prev = s.prev := by
  unfold inMode
  split <;> (repeat' split) <;> simp [code_frame]

@[simp] theorem inMode_text (s : Scanner) (e : Bool) (c : Char) (n : Option Char) :
    (s.inMode e c n).text = s.text := (inMode_frame s e c n).1

@[simp] theorem inMode_line (s : Scanner) (e : Bool) (c : Char) (n : Option Char) :
    (s.inMode e c n).line = s.line := (inMode_frame s e c n).2.1

@[simp] theorem inMode_column (s : Scanner) (e : Bool) (c : Char) (n : Option Char) :
    (s.inMode e c n).column = s.column := (inMode_frame s e c n).2.2.1

@[simp] theorem inMode_hasContent (s : Scanner) (e : Bool) (c : Char) (n : Option Char) :
    (s.inMode e c n).hasContent = s.hasContent := (inMode_frame s e c n).2.2.2.1

@[simp] theorem inMode_prev (s : Scanner) (e : Bool) (c : Char) (n : Option Char) :
    (s.inMode e c n).prev = s.prev := (inMode_frame s e c n).2.2.2.2

theorem inMode_code (s : Scanner) (c : Char) (n : Option Char) (hm : s.mode = .code) :
    s.inMode false c n = s.code c n := by
  simp [inMode, hm]

theorem code_records (s : Scanner) (c : Char) (n : Option Char) :
    let s' := s.code c n
    (s'.parens = s.parens ∧ s'.pending = s.pending ∧ s'.spans = s.spans) ∨
    (c = '(' ∧ s'.parens = s.parens + 1 ∧ s'.pending = s.pending ∧ s'.spans = s.spans) ∨
    (c = ')' ∧ 0 < s.parens ∧ s'.parens = s.parens - 1 ∧
      ((∃ sp, s.pending = some (sp, s.parens - 1) ∧ s'.pending = none ∧
          s'.spans = s.spans.push { sp with stop := some (s.column + 1) }) ∨
        ((∀ sp d, s.pending = some (sp, d) → d ≠ s.parens - 1) ∧ s'.pending = s.pending ∧
          s'.spans = s.spans))) ∨
    (s.pending = none ∧ n = some '(' ∧ ∃ k, SubstKind.ofPrefix? c = some k ∧
      s' = { s with pending := some (⟨s.line, s.column, none, k⟩, s.parens) }) := by
  intro s'
  unfold s' code
  split
  case h_8 =>
    split
    · exact .inl ⟨rfl, rfl, rfl⟩
    · refine .inr (.inr (.inl ⟨rfl, by omega, ?_⟩))
      unfold finishSpan
      split
      · split
        · exact ⟨rfl, .inl ⟨_, by simp_all, rfl, rfl⟩⟩
        · exact ⟨rfl, .inr ⟨by grind, rfl, rfl⟩⟩
      · exact ⟨rfl, .inr ⟨by simp_all, rfl, rfl⟩⟩
  case h_5 => exact .inr (.inl ⟨rfl, rfl, rfl, rfl⟩)
  case h_11 =>
    split
    · unfold openSpan
      split
      · exact .inl ⟨rfl, rfl, rfl⟩
      · exact .inr (.inr (.inr ⟨‹_›, rfl, _, ‹_›, rfl⟩))
    · exact .inl ⟨rfl, rfl, rfl⟩
  all_goals first
    | exact .inl ⟨rfl, rfl, rfl⟩
    | (split <;> exact .inl ⟨rfl, rfl, rfl⟩)

theorem code_unmatched (s : Scanner) (c : Char) (n : Option Char) :
    (s.code c n).unmatched = s.unmatched ∨
      ((s.code c n).unmatched = s.unmatched.push ⟨s.line, s.column, c⟩ ∧ isBlank c = false) := by
  unfold code unmatchedAt finishSpan openSpan
  split <;> (repeat' split) <;> simp_all [isBlank]

theorem inMode_records_of_ne (s : Scanner) (e : Bool) (c : Char) (n : Option Char)
    (h : ¬ (s.mode = .code ∧ e = false)) :
    (s.inMode e c n).parens = s.parens ∧ (s.inMode e c n).pending = s.pending ∧
      (s.inMode e c n).spans = s.spans ∧ (s.inMode e c n).unmatched = s.unmatched := by
  unfold inMode
  split <;> (repeat' split) <;> simp_all

theorem inMode_records (s : Scanner) (e : Bool) (c : Char) (n : Option Char) :
    let s' := s.inMode e c n
    (s'.parens = s.parens ∧ s'.pending = s.pending ∧ s'.spans = s.spans) ∨
    (s.mode = .code ∧ e = false ∧ c = '(' ∧ s'.parens = s.parens + 1 ∧ s'.pending = s.pending ∧
      s'.spans = s.spans) ∨
    (c = ')' ∧ 0 < s.parens ∧ s'.parens = s.parens - 1 ∧
      ((∃ sp, s.pending = some (sp, s.parens - 1) ∧ s'.pending = none ∧
          s'.spans = s.spans.push { sp with stop := some (s.column + 1) }) ∨
        ((∀ sp d, s.pending = some (sp, d) → d ≠ s.parens - 1) ∧ s'.pending = s.pending ∧
          s'.spans = s.spans))) ∨
    (s.mode = .code ∧ e = false ∧ s.pending = none ∧ n = some '(' ∧ ∃ k,
      SubstKind.ofPrefix? c = some k ∧
      s' = { s with pending := some (⟨s.line, s.column, none, k⟩, s.parens) }) := by
  intro s'
  by_cases hm : s.mode = .code ∧ e = false
  · obtain ⟨hm, rfl⟩ := hm
    unfold s'
    rw [inMode_code _ _ _ hm]
    rcases code_records s c n with h | ⟨h1, h2⟩ | h | ⟨h1, h2, h3⟩
    · exact .inl h
    · exact .inr (.inl ⟨hm, rfl, h1, h2⟩)
    · exact .inr (.inr (.inl h))
    · exact .inr (.inr (.inr ⟨hm, rfl, h1, h2, h3⟩))
  · have h := inMode_records_of_ne s e c n hm
    exact .inl ⟨h.1, h.2.1, h.2.2.1⟩

theorem inMode_spans (s : Scanner) (e : Bool) (c : Char) (n : Option Char) :
    (s.inMode e c n).spans = s.spans ∨
      (c = ')' ∧ ∃ sp, s.pending = some (sp, s.parens - 1) ∧ (s.inMode e c n).pending = none ∧
        (s.inMode e c n).spans = s.spans.push { sp with stop := some (s.column + 1) }) := by
  rcases inMode_records s e c n with h | h | ⟨hc, -, -, ⟨sp, h⟩ | h⟩ | ⟨-, -, -, -, k, -, h⟩
  · exact .inl h.2.2
  · exact .inl h.2.2.2.2.2
  · exact .inr ⟨hc, sp, h⟩
  · exact .inl h.2.2
  · exact .inl (by rw [h])

theorem inMode_unmatched (s : Scanner) (e : Bool) (c : Char) (n : Option Char) :
    (s.inMode e c n).unmatched = s.unmatched ∨
      ((s.inMode e c n).unmatched = s.unmatched.push ⟨s.line, s.column, c⟩ ∧
        isBlank c = false) := by
  by_cases hm : s.mode = .code ∧ e = false
  · obtain ⟨hm, rfl⟩ := hm
    rw [inMode_code _ _ _ hm]
    exact code_unmatched s c n
  · exact .inl (inMode_records_of_ne s e c n hm).2.2.2

theorem inMode_comment (s : Scanner) (e : Bool) (c : Char) (n : Option Char)
    (hm : s.mode = .comment) : s.inMode e c n = s := by
  simp [inMode, hm]

theorem code_hash (s : Scanner) (n : Option Char) (hp : s.prev.all isBlank = true) :
    s.code '#' n = { s with mode := .comment } := by
  simp [code, hp]

theorem code_lparen (s : Scanner) (n : Option Char) :
    s.code '(' n = { s with parens := s.parens + 1 } := rfl

theorem newline_of_softBreak (s : Scanner) (e : Bool) (h : s.softBreak e = true) :
    s.newline e =
      { s with mode := (if s.mode = .comment then .code else s.mode), text := s.text ++ marker,
               column := s.column + 1, prev := some '\n' } := by
  unfold newline
  cases hm : s.mode <;> simp_all [softBreak]

theorem newline_of_not_softBreak (s : Scanner) (e : Bool) (h : s.softBreak e = false) :
    s.newline e =
      { s with mode := .code, text := s.text.push '\n',
               line := if s.hasContent then s.line + 1 else s.line, column := 0,
               hasContent := false, prev := some '\n' } := by
  unfold newline
  cases hm : s.mode <;> simp_all [softBreak]

theorem step_newline (s : Scanner) (n : Option Char) :
    s.step '\n' n = { s with escaped := false }.newline s.escaped := by
  simp [step]

theorem step_of_ne (s : Scanner) {c : Char} (n : Option Char) (hc : c ≠ '\n') :
    s.step c n =
      let s' := { s with escaped := false }.inMode s.escaped c n
      { s' with text := s.text.push c, column := s.column + 1,
                hasContent := s.hasContent || !isBlank c, prev := some c } := by
  simp [step, hc]

end MixedScript.Scanner
