import MixedScript.Layout.Marker

/-!
# Laid-out text as cells

A laid-out text is a list of cells, each a character or a soft break, and its source is the
same list with every soft break read as a newline. When the source holds no marker, restoring
the text and counting its columns both move from cell to cell.
-/

namespace MixedScript.Layout

open MixedScript.Text

/-- One column of a laid-out line: a character written as read, or a soft break. -/
inductive Cell where
  | char (c : Char)
  | soft
deriving DecidableEq, Repr

namespace Cell

/-- What the layout writes for a cell. -/
def rendered : Cell → List Char
  | .char c => [c]
  | .soft => markerChars

/-- What the source held at a cell. -/
def source : Cell → List Char
  | .char c => [c]
  | .soft => ['\n']

/-- A blank cell; a soft break is not blank, since the marker is not. -/
def blank : Cell → Bool
  | .char c => isBlank c
  | .soft => false

end Cell

/-- The laid-out text of a list of cells. -/
def renderCells (cs : List Cell) : List Char :=
  cs.flatMap Cell.rendered

/-- The source text of a list of cells. -/
def sourceCells (cs : List Cell) : List Char :=
  cs.flatMap Cell.source

@[simp] theorem renderCells_nil : renderCells [] = [] := rfl

@[simp] theorem renderCells_cons (x : Cell) (cs : List Cell) :
    renderCells (x :: cs) = x.rendered ++ renderCells cs := rfl

@[simp] theorem renderCells_append (xs ys : List Cell) :
    renderCells (xs ++ ys) = renderCells xs ++ renderCells ys := by
  simp [renderCells]

@[simp] theorem sourceCells_nil : sourceCells [] = [] := rfl

@[simp] theorem sourceCells_cons (x : Cell) (cs : List Cell) :
    sourceCells (x :: cs) = x.source ++ sourceCells cs := rfl

@[simp] theorem sourceCells_append (xs ys : List Cell) :
    sourceCells (xs ++ ys) = sourceCells xs ++ sourceCells ys := by
  simp [sourceCells]

@[simp] theorem Cell.rendered_char (c : Char) : (Cell.char c).rendered = [c] := rfl

@[simp] theorem Cell.rendered_soft : Cell.soft.rendered = markerChars := rfl

@[simp] theorem Cell.source_char (c : Char) : (Cell.char c).source = [c] := rfl

@[simp] theorem Cell.source_soft : Cell.soft.source = ['\n'] := rfl

/-- A text that holds no marker of its own. -/
def MarkerFree (cs : List Char) : Prop :=
  ¬ markerChars <:+: cs

theorem MarkerFree.of_infix {xs ys : List Char} (h : MarkerFree ys) (hxy : xs <:+: ys) :
    MarkerFree xs :=
  fun hm => h (hm.trans hxy)

theorem MarkerFree.of_cons {c : Char} {cs : List Char} (h : MarkerFree (c :: cs)) :
    MarkerFree cs :=
  h.of_infix (List.suffix_cons c cs).isInfix

theorem markerFree_of_not_mem {cs : List Char} (h : '\uE000' ∉ cs) : MarkerFree cs :=
  fun hm => h (hm.subset (by decide : '\uE000' ∈ markerChars))

theorem markerChars_eq_cons : markerChars = '\uE000' :: markerChars.tail := by decide

theorem markerStart_not_mem_tail : '\uE000' ∉ markerChars.tail := by decide

theorem length_markerChars_tail : markerChars.tail.length = 20 := by decide

theorem newline_not_mem_markerChars : '\n' ∉ markerChars := by decide

theorem markerChars_all_not_blank : markerChars.all isBlank = false := by decide

theorem prefix_sourceCells_of_prefix_renderCells {w : List Char} (hw : '\uE000' ∉ w) :
    ∀ {cs : List Cell}, w <+: renderCells cs → w <+: sourceCells cs
  | [], h => by simpa using h
  | .char c :: cs, h => by
    cases w with
    | nil => exact List.nil_prefix
    | cons a w =>
      simp only [renderCells_cons, Cell.rendered_char, List.singleton_append,
        List.cons_prefix_cons] at h
      obtain ⟨rfl, h⟩ := h
      simpa using prefix_sourceCells_of_prefix_renderCells (fun hm => hw (List.mem_cons_of_mem _ hm)) h
  | .soft :: cs, h => by
    cases w with
    | nil => exact List.nil_prefix
    | cons a w =>
      rw [renderCells_cons, Cell.rendered_soft, markerChars_eq_cons, List.cons_append,
        List.cons_prefix_cons] at h
      exact absurd (h.1 ▸ List.mem_cons_self) hw

theorem markerChars_not_prefix_char {c : Char} {cs : List Cell}
    (h : MarkerFree (c :: sourceCells cs)) : ¬ markerChars <+: c :: renderCells cs := by
  intro hp
  rw [markerChars_eq_cons, List.cons_prefix_cons] at hp
  obtain ⟨rfl, hp⟩ := hp
  apply h
  rw [markerChars_eq_cons]
  exact (List.cons_prefix_cons.2 ⟨rfl, prefix_sourceCells_of_prefix_renderCells
    markerStart_not_mem_tail hp⟩).isInfix

theorem eq_soft_of_eq_markerChars :
    ∀ {cs : List Cell} {p r : List Char}, MarkerFree (sourceCells cs) →
      renderCells cs = p ++ markerChars ++ r →
      ∃ cs₁ cs₂, cs = cs₁ ++ .soft :: cs₂ ∧ renderCells cs₁ = p
  | [], p, r, _, h => by
    have := congrArg List.length h
    simp [markerChars_length] at this
    omega
  | .char c :: cs, [], r, hf, h => by
    have hfree : MarkerFree (c :: sourceCells cs) := by simpa using hf
    exact absurd ⟨r, by simpa using h.symm⟩ (markerChars_not_prefix_char hfree)
  | .char c :: cs, x :: p, r, hf, h => by
    have hfree : MarkerFree (c :: sourceCells cs) := by simpa using hf
    simp only [renderCells_cons, Cell.rendered_char, List.cons_append, List.cons.injEq] at h
    obtain ⟨cs₁, cs₂, rfl, hp⟩ := eq_soft_of_eq_markerChars hfree.of_cons h.2
    exact ⟨.char c :: cs₁, cs₂, rfl, by simp [hp, h.1]⟩
  | .soft :: cs, p, r, hf, h => by
    have hfree : MarkerFree ('\n' :: sourceCells cs) := by simpa using hf
    rw [renderCells_cons, Cell.rendered_soft, List.append_assoc, List.append_eq_append_iff] at h
    rcases h with ⟨as, rfl, has⟩ | ⟨bs, hbs, hr⟩
    · obtain ⟨cs₁, cs₂, rfl, hp⟩ := eq_soft_of_eq_markerChars hfree.of_cons
        (by rw [has, List.append_assoc])
      exact ⟨.soft :: cs₁, cs₂, rfl, by simp [hp]⟩
    · cases p with
      | nil => exact ⟨[], cs, rfl, rfl⟩
      | cons x p =>
        cases bs with
        | nil =>
          obtain ⟨cs₁, cs₂, rfl, hp⟩ := eq_soft_of_eq_markerChars (p := []) hfree.of_cons
            (by simpa using hr.symm)
          exact ⟨.soft :: cs₁, cs₂, rfl, by simp [hp, hbs]⟩
        | cons y bs =>
          have hy : y = '\uE000' := by
            rw [markerChars_eq_cons] at hr
            exact (List.cons.inj hr).1.symm
          have htail : markerChars.tail = p ++ y :: bs := by
            rw [hbs]
            rfl
          exact absurd (htail ▸ by simp [hy]) markerStart_not_mem_tail

theorem unfoldChars_markerChars_append (cs : List Char) :
    unfoldChars (markerChars ++ cs) = '\n' :: unfoldChars cs := by
  have hp : markerChars.isPrefixOf ('\uE000' :: (markerChars.tail ++ cs)) = true := by
    rw [List.isPrefixOf_iff_prefix, ← List.cons_append, ← markerChars_eq_cons]
    exact List.prefix_append _ _
  rw [markerChars_eq_cons, List.cons_append, unfoldChars, if_pos hp, ← length_markerChars_tail,
    List.drop_left]

/-- Restoring a laid-out text gives back its source, when the source holds no marker. -/
theorem unfoldChars_renderCells :
    ∀ {cs : List Cell}, MarkerFree (sourceCells cs) → unfoldChars (renderCells cs) = sourceCells cs
  | [], _ => by simp [unfoldChars]
  | .char c :: cs, h => by
    have hfree : MarkerFree (c :: sourceCells cs) := by simpa using h
    rw [renderCells_cons, Cell.rendered_char, List.singleton_append, unfoldChars, if_neg,
      unfoldChars_renderCells hfree.of_cons]
    · rfl
    · rw [List.isPrefixOf_iff_prefix]
      exact markerChars_not_prefix_char hfree
  | .soft :: cs, h => by
    have hfree : MarkerFree ('\n' :: sourceCells cs) := by simpa using h
    rw [renderCells_cons, Cell.rendered_soft, unfoldChars_markerChars_append,
      unfoldChars_renderCells hfree.of_cons]
    rfl

theorem splitAtColumn_succ_of_markerChars {cs : List Char} (n : Nat) (h : markerChars <+: cs) :
    splitAtColumn cs (n + 1) =
      (splitAtColumn (cs.drop 21) n).map fun p => (markerChars ++ p.1, p.2) := by
  cases cs with
  | nil => exact absurd (List.prefix_nil.1 h) (by decide)
  | cons c cs => rw [splitAtColumn, if_pos (List.isPrefixOf_iff_prefix.2 h)]

theorem splitAtColumn_succ_cons {c : Char} {cs : List Char} (n : Nat)
    (h : ¬ markerChars <+: c :: cs) :
    splitAtColumn (c :: cs) (n + 1) = (splitAtColumn cs n).map fun p => (c :: p.1, p.2) := by
  rw [splitAtColumn, if_neg (mt List.isPrefixOf_iff_prefix.1 h)]

theorem splitAtColumn_renderCells :
    ∀ {cs : List Cell} {n : Nat}, MarkerFree (sourceCells cs) → n ≤ cs.length →
      splitAtColumn (renderCells cs) n = some (renderCells (cs.take n), renderCells (cs.drop n))
  | cs, 0, _, _ => by simp
  | [], _ + 1, _, hn => by simp at hn
  | .char c :: cs, n + 1, h, hn => by
    have hfree : MarkerFree (c :: sourceCells cs) := by simpa using h
    have hlen : n ≤ cs.length := by simpa using hn
    rw [renderCells_cons, Cell.rendered_char, List.singleton_append,
      splitAtColumn_succ_cons n (markerChars_not_prefix_char hfree),
      splitAtColumn_renderCells hfree.of_cons hlen]
    simp
  | .soft :: cs, n + 1, h, hn => by
    have hfree : MarkerFree ('\n' :: sourceCells cs) := by simpa using h
    have hlen : n ≤ cs.length := by simpa using hn
    rw [renderCells_cons, Cell.rendered_soft, splitAtColumn_succ_of_markerChars n (List.prefix_append _ _),
      ← markerChars_length, List.drop_left, splitAtColumn_renderCells hfree.of_cons hlen]
    simp

theorem columnToByte_renderCells {cs : List Cell} {n : Nat} (h : MarkerFree (sourceCells cs))
    (hn : n ≤ cs.length) :
    columnToByte (String.ofList (renderCells cs)) n = some (byteLength (renderCells (cs.take n))) := by
  simp [columnToByte, splitAtColumn_renderCells h hn]

theorem isBlankLine_renderCells (cs : List Cell) :
    isBlankLine (renderCells cs) = cs.all Cell.blank := by
  induction cs with
  | nil => rfl
  | cons x cs ih =>
    cases x with
    | char c => simp [isBlankLine, Cell.blank] at ih ⊢; simp [ih]
    | soft => simp [isBlankLine, Cell.blank, markerChars_all_not_blank]

theorem newline_not_mem_renderCells {cs : List Cell} (h : Cell.char '\n' ∉ cs) :
    '\n' ∉ renderCells cs := by
  induction cs with
  | nil => simp
  | cons x cs ih =>
    simp only [List.mem_cons, not_or] at h
    cases x with
    | char c =>
      have hc : c ≠ '\n' := fun he => h.1 (he ▸ rfl)
      simpa [Ne.symm hc] using ih h.2
    | soft => simpa [newline_not_mem_markerChars] using ih h.2

theorem renderCells_eq_sourceCells {cs : List Cell} (h : Cell.soft ∉ cs) :
    renderCells cs = sourceCells cs := by
  induction cs with
  | nil => rfl
  | cons x cs ih =>
    simp only [List.mem_cons, not_or] at h
    cases x with
    | char c => simp [ih h.2]
    | soft => exact absurd rfl h.1

end MixedScript.Layout
