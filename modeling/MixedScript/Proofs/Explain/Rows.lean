import Mathlib.Data.List.Forall2
import Mathlib.Data.Nat.Init
import Mathlib.Tactic.ByContra
import MixedScript.Explain
import MixedScript.Proofs.Target.Splice

/-!
# The rows of an explanation

Every row shows its statement whole. In colour the statement is cut into painted pieces that
join back to it, and every cut falls where a column begins, so restoring the pieces one by one
restores the statement.
-/

namespace MixedScript

open MixedScript.Text MixedScript.Layout

namespace Layout

theorem unfoldChars_of_splitAtColumn {cs p q : List Char} {n : Nat}
    (h : splitAtColumn cs n = some (p, q)) : unfoldChars cs = unfoldChars p ++ unfoldChars q := by
  induction n generalizing cs p q with
  | zero =>
    simp only [splitAtColumn_zero, Option.some.injEq, Prod.mk.injEq] at h
    obtain ⟨rfl, rfl⟩ := h
    rw [unfoldChars_nil, List.nil_append]
  | succ n ih =>
    by_cases hm : markerChars <+: cs
    · rw [splitAtColumn_succ_of_markerChars _ hm] at h
      obtain ⟨⟨p', q'⟩, h', hpq⟩ := Option.map_eq_some_iff.1 h
      simp only [Prod.mk.injEq] at hpq
      obtain ⟨rfl, rfl⟩ := hpq
      obtain ⟨t, rfl⟩ := hm
      rw [← markerChars_length, List.drop_left] at h'
      rw [unfoldChars_markerChars_append, unfoldChars_markerChars_append, ih h', List.cons_append]
    · cases cs with
      | nil => cases h
      | cons c rest =>
        rw [splitAtColumn_succ_cons _ hm] at h
        obtain ⟨⟨p', q'⟩, h', hpq⟩ := Option.map_eq_some_iff.1 h
        simp only [Prod.mk.injEq] at hpq
        obtain ⟨rfl, rfl⟩ := hpq
        -- The column's character opens no marker within the cut either.
        have hm' : ¬ markerChars <+: c :: p' := fun hp =>
          hm (hp.trans ⟨q', by rw [List.cons_append, splitAtColumn_append h']⟩)
        rw [unfoldChars, if_neg (mt List.isPrefixOf_iff_prefix.1 hm), ih h', unfoldChars,
          if_neg (mt List.isPrefixOf_iff_prefix.1 hm'), List.cons_append]

theorem splitAtColumn_of_columnToIndex {line : List Char} {n i : Nat}
    (h : columnToIndex line n = some i) : splitAtColumn line n = some (line.take i, line.drop i) := by
  obtain ⟨⟨p, q⟩, hs, rfl⟩ := Option.map_eq_some_iff.1 h
  obtain rfl := splitAtColumn_append hs
  simpa using hs

theorem exists_columnToIndex_length (line : List Char) :
    ∃ n, columnToIndex line n = some line.length := by
  induction hlen : line.length using Nat.strong_induction_on generalizing line with
  | _ k ih =>
    cases line with
    | nil => exact ⟨0, by simp [← hlen, columnToIndex]⟩
    | cons c rest =>
      by_cases hm : markerChars <+: c :: rest
      · obtain ⟨t, ht⟩ := hm
        have hk : t.length + 21 = k := by
          rw [← hlen, ← ht, List.length_append, markerChars_length]
          omega
        obtain ⟨n, hn⟩ := ih t.length (by omega) t rfl
        obtain ⟨⟨p, q⟩, hs, hp⟩ := Option.map_eq_some_iff.1 hn
        dsimp only at hp
        refine ⟨n + 1, ?_⟩
        rw [columnToIndex, splitAtColumn_succ_of_markerChars _ ⟨t, ht⟩, ← ht, ← markerChars_length,
          List.drop_left, hs]
        simp only [Option.map_some, List.length_append, markerChars_length, Option.some.injEq]
        omega
      · have hk : rest.length + 1 = k := by simp [← hlen]
        obtain ⟨n, hn⟩ := ih rest.length (by omega) rest rfl
        obtain ⟨⟨p, q⟩, hs, hp⟩ := Option.map_eq_some_iff.1 hn
        dsimp only at hp
        refine ⟨n + 1, ?_⟩
        rw [columnToIndex, splitAtColumn_succ_cons _ hm, hs]
        simp only [Option.map_some, List.length_cons, Option.some.injEq]
        omega

theorem unfoldChars_drop_of_columnToIndex {line : List Char} {n m i j : Nat}
    (hi : columnToIndex line n = some i) (hj : columnToIndex line m = some j) (hij : i ≤ j) :
    unfoldChars (line.drop i) =
      unfoldChars ((line.drop i).take (j - i)) ++ unfoldChars (line.drop j) := by
  have hsi := splitAtColumn_of_columnToIndex hi
  have hsj := splitAtColumn_of_columnToIndex hj
  -- Each column takes at least one character, so the later cut is no earlier in columns.
  have hnm : n ≤ m := by
    by_contra hlt
    have hgap := length_le_of_splitAtColumn (Nat.le_of_lt (Nat.not_le.1 hlt)) hsj hsi
    simp only [List.length_take] at hgap
    omega
  rw [show m = n + (m - n) by omega, splitAtColumn_add, hsi, Option.bind_some] at hsj
  obtain ⟨⟨t, u⟩, ht, htu⟩ := Option.map_eq_some_iff.1 hsj
  simp only [Prod.mk.injEq] at htu
  obtain ⟨htake, rfl⟩ := htu
  have hpiece : t = (line.drop i).take (j - i) := by
    rw [show j = i + (j - i) by omega, List.take_add] at htake
    exact List.append_cancel_left htake
  rw [unfoldChars_of_splitAtColumn ht, hpiece]

end Layout

theorem drop_take_append_drop {α : Type} (l : List α) {a b : Nat} (h : a ≤ b) :
    (l.drop a).take (b - a) ++ l.drop b = l.drop a := by
  have hdrop : l.drop b = (l.drop a).drop (b - a) := by
    rw [List.drop_drop]
    congr 1
    omega
  rw [hdrop, List.take_append_drop]

namespace Explain

theorem blendedText_go (st : Style) (line : List Char) :
    ∀ (spans : List Span) (pos : Nat), (∃ n, columnToIndex line n = some pos) →
      ∃ segs : List (Nat × List Char),
        blendedText.go st line pos spans =
          String.join (segs.map fun s => st.paint s.1 (String.ofList s.2)) ∧
        (segs.map Prod.snd).flatten = line.drop pos ∧
        (segs.map fun s => unfoldChars s.2).flatten = unfoldChars (line.drop pos)
  | [], pos, _ =>
    ⟨[(LineClass.host.colour, line.drop pos)], by simp [blendedText.go], by simp, by simp⟩
  | sp :: more, pos, hpos => by
    obtain ⟨n, hn⟩ := hpos
    cases hstart : columnToIndex line sp.start with
    | none =>
      simp only [blendedText.go, hstart]
      exact blendedText_go st line more pos ⟨n, hn⟩
    | some start =>
      simp only [blendedText.go, hstart]
      -- The piece ends at the cut of the span's end, or at the end of the statement.
      obtain ⟨m, hm⟩ : ∃ m, columnToIndex line m =
          some ((sp.stop.bind (columnToIndex line)).getD line.length) := by
        cases hstop : sp.stop.bind (columnToIndex line) with
        | none => exact exists_columnToIndex_length line
        | some stop =>
          obtain ⟨e, -, he⟩ := Option.bind_eq_some_iff.1 hstop
          exact ⟨e, he⟩
      generalize (sp.stop.bind (columnToIndex line)).getD line.length = stop at hm ⊢
      obtain ⟨s, hs, hcut, hunfold⟩ := blendedText_go st line more stop ⟨m, hm⟩
      by_cases hskip : start < pos ∨ stop < start
      · rw [if_pos (by simpa using hskip)]
        exact blendedText_go st line more pos ⟨n, hn⟩
      · rw [if_neg (by simpa using hskip)]
        have hps : pos ≤ start := by omega
        have hss : start ≤ stop := by omega
        refine ⟨(LineClass.host.colour, (line.drop pos).take (start - pos)) ::
          (LineClass.shell.colour, (line.drop start).take (stop - start)) :: s, ?_, ?_, ?_⟩
        · simp [hs, String.append_assoc]
        · simp only [List.map_cons, List.flatten_cons, hcut, drop_take_append_drop line hss,
            drop_take_append_drop line hps]
        · simp only [List.map_cons, List.flatten_cons, hunfold,
            ← unfoldChars_drop_of_columnToIndex hstart hm hss,
            ← unfoldChars_drop_of_columnToIndex hn hstart hps]

theorem blendedText_pieces (st : Style) (line : List Char) (spans : List Span) :
    ∃ segs : List (Nat × List Char),
      blendedText st line spans = String.join (segs.map fun s => st.paint s.1 (String.ofList s.2)) ∧
      (segs.map Prod.snd).flatten = line ∧
      (segs.map fun s => unfoldChars s.2).flatten = unfoldChars line := by
  obtain ⟨segs, hshow, hcut, hunfold⟩ := blendedText_go st line spans 0 ⟨0, by simp [columnToIndex]⟩
  exact ⟨segs, hshow, by simpa using hcut, by simpa using hunfold⟩

end Explain

theorem join_map_ofList (xs : List (List Char)) :
    String.join (xs.map String.ofList) = String.ofList xs.flatten := by
  induction xs with
  | nil => rfl
  | cons x xs ih => rw [List.map_cons, String.join_cons, ih, List.flatten_cons, String.ofList_append]

/-- A row of the explanation in colour: the label in the colour of the class, ` | `, the
statement cut into consecutive pieces, each painted in a colour of its own, and a newline. The
pieces join to the statement, and restoring them one by one restores the statement. -/
def PaintedRow (l : String) (c : LineClass) (r : String) : Prop :=
  ∃ segs : List (Nat × String), String.join (segs.map Prod.snd) = l ∧
    String.join (segs.map fun s => restore s.2) = restore l ∧
    r = Style.ansi.paint c.colour (Explain.padLabel c.label) ++ " | " ++
      String.join (segs.map fun s => Style.ansi.paint s.1 s.2) ++ "\n"

theorem paintedRow_single (l : String) (c : LineClass) :
    PaintedRow l c (Style.ansi.paint c.colour (Explain.padLabel c.label) ++ " | " ++
      Style.ansi.paint c.colour l ++ "\n") :=
  ⟨[(c.colour, l)], by simp, by simp, by simp⟩

namespace Explain

theorem row_plain (spans : List Span) (idx : Nat) (l : String) (c : LineClass) :
    row .plain spans idx l c = padLabel c.label ++ " | " ++ l ++ "\n" := by
  cases c with
  | blended =>
    obtain ⟨segs, hshow, hcut, -⟩ := blendedText_pieces .plain l.toList (spansOn spans idx)
    have htext : blendedText .plain l.toList (spansOn spans idx) = l := by
      rw [hshow, ← String.ofList_toList (s := l), ← hcut, ← join_map_ofList, List.map_map]
      rfl
    simp only [row, htext]
    rfl
  | comment | host | shell | directive => rfl

theorem row_ansi (spans : List Span) (idx : Nat) (l : String) (c : LineClass) :
    PaintedRow l c (row .ansi spans idx l c) := by
  cases c with
  | blended =>
    obtain ⟨segs, hshow, hcut, hunfold⟩ := blendedText_pieces .ansi l.toList (spansOn spans idx)
    refine ⟨segs.map fun s => (s.1, String.ofList s.2), ?_, ?_, ?_⟩
    · rw [List.map_map, ← String.ofList_toList (s := l), ← hcut, ← join_map_ofList, List.map_map]
      rfl
    · have hrestore : ∀ p : List Char, restore (String.ofList p) = String.ofList (unfoldChars p) :=
        fun p => by rw [restore, String.toList_ofList]
      rw [List.map_map, restore, ← hunfold, ← join_map_ofList, List.map_map]
      simp [Function.comp_def, hrestore]
    · simp only [row, hshow, List.map_map]
      rfl
  | comment | host | shell | directive => exact paintedRow_single l _

theorem rowsFrom_plain (spans : List Span) : ∀ (i : Nat) (L : List String) (C : List LineClass),
    rowsFrom .plain spans i L C =
      String.join ((L.zip C).map fun p => padLabel p.2.label ++ " | " ++ p.1 ++ "\n")
  | i, l :: ls, c :: cs => by
    rw [rowsFrom, row_plain, rowsFrom_plain spans (i + 1) ls cs, List.zip_cons_cons, List.map_cons,
      String.join_cons]
  | _, [], _ => by simp [rowsFrom]
  | _, _ :: _, [] => by simp [rowsFrom]

theorem rowsFrom_ansi (spans : List Span) : ∀ (i : Nat) (L : List String) (C : List LineClass),
    ∃ R : List String, List.Forall₂ (fun p r => PaintedRow p.1 p.2 r) (L.zip C) R ∧
      rowsFrom .ansi spans i L C = String.join R
  | i, l :: ls, c :: cs => by
    obtain ⟨R, hR, hrows⟩ := rowsFrom_ansi spans (i + 1) ls cs
    refine ⟨row .ansi spans i l c :: R, ?_, ?_⟩
    · rw [List.zip_cons_cons]
      exact .cons (row_ansi spans i l c) hR
    · rw [rowsFrom, hrows, String.join_cons]
  | _, [], _ => ⟨[], by simp, by simp [rowsFrom]⟩
  | _, _ :: _, [] => ⟨[], by simp, by simp [rowsFrom]⟩

end Explain

/-- The explanation shows every statement unchanged, whatever the spans: in plain style it is the
restored rows of padded label, ` | ` and statement; in colour each row paints its label and the
pieces of its statement, which join back to the statement and are cut between its columns. -/
theorem explain_shows_statements (L : List String) (C : List LineClass) (S : List Span) :
    explain L C S .plain = restore (String.join ((L.zip C).map fun p =>
      Explain.padLabel p.2.label ++ " | " ++ p.1 ++ "\n")) ∧
    ∃ R : List String, List.Forall₂ (fun p r => PaintedRow p.1 p.2 r) (L.zip C) R ∧
      explain L C S .ansi = restore (String.join R) := by
  refine ⟨by rw [explain, Explain.rowsFrom_plain], ?_⟩
  obtain ⟨R, hR, hrows⟩ := Explain.rowsFrom_ansi S 0 L C
  exact ⟨R, hR, by rw [explain, hrows]⟩

end MixedScript
