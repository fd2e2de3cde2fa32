import MixedScript.Proofs.Layout.Lines
import MixedScript.Target.Program

/-!
# A blended statement as a splice

`rewriteBlended` replaces the substitutions in place from the rightmost start to the leftmost;
`spliceCalls` reads the statement left to right. They agree because each replacement touches
only bytes at or after its start, and every substitution still to come ends before it.
-/

namespace MixedScript

open MixedScript.Text MixedScript.Layout MixedScript.Target

namespace Text

theorem indexOfByte_byteLength_append (xs ys : List Char) :
    indexOfByte (xs ++ ys) (byteLength xs) = some xs.length := by
  induction xs with
  | nil => simp
  | cons c xs ih =>
    have hpos := Char.utf8Size_pos c
    obtain ⟨b, hb⟩ : ∃ b, c.utf8Size + byteLength xs = b + 1 := ⟨_, (Nat.succ_pred_eq_of_pos
      (Nat.add_pos_left hpos _)).symm⟩
    rw [byteLength_cons, List.cons_append, hb, indexOfByte, if_pos (by omega),
      show b + 1 - c.utf8Size = byteLength xs by omega, ih]
    rfl

theorem indexOfByte_of_prefix {xs cs : List Char} (h : xs <+: cs) :
    indexOfByte cs (byteLength xs) = some xs.length := by
  obtain ⟨ys, rfl⟩ := h
  exact indexOfByte_byteLength_append xs ys

theorem byteLength_le_of_prefix {xs cs : List Char} (h : xs <+: cs) :
    byteLength xs ≤ byteLength cs := by
  obtain ⟨ys, rfl⟩ := h
  rw [byteLength_append]
  exact Nat.le_add_right _ _

theorem byteSlice_of_prefix {xs ys cs : List Char} (hx : xs <+: cs) (hy : ys <+: cs)
    (hle : xs.length ≤ ys.length) :
    byteSlice cs (byteLength xs) (byteLength ys) =
      some ((cs.drop xs.length).take (ys.length - xs.length)) := by
  simp [byteSlice, indexOfByte_of_prefix hx, indexOfByte_of_prefix hy, hle]

theorem byteReplace_of_prefix {xs ys cs : List Char} (hx : xs <+: cs) (hy : ys <+: cs)
    (hle : xs.length ≤ ys.length) (r : List Char) :
    byteReplace cs (byteLength xs) (byteLength ys) r =
      some (cs.take xs.length ++ r ++ cs.drop ys.length) := by
  simp [byteReplace, indexOfByte_of_prefix hx, indexOfByte_of_prefix hy, hle]

theorem eq_nil_of_byteLength_eq_zero {cs : List Char} (h : byteLength cs = 0) : cs = [] := by
  cases cs with
  | nil => rfl
  | cons c cs =>
    have := Char.utf8Size_pos c
    simp at h
    omega

theorem eq_of_prefix_of_byteLength_eq {p p' l : List Char} (hp : p <+: l) (hp' : p' <+: l)
    (h : byteLength p = byteLength p') : p = p' := by
  rcases List.prefix_or_prefix_of_prefix hp hp' with ⟨t, rfl⟩ | ⟨t, rfl⟩
  · rw [byteLength_append] at h
    rw [eq_nil_of_byteLength_eq_zero (by omega : byteLength t = 0), List.append_nil]
  · rw [byteLength_append] at h
    rw [eq_nil_of_byteLength_eq_zero (by omega : byteLength t = 0), List.append_nil]


theorem byteSlice_take (l : List Char) {x y : Nat} (hxy : x ≤ y) (hy : y ≤ l.length) :
    byteSlice l (byteLength (l.take x)) (byteLength (l.take y)) =
      some ((l.drop x).take (y - x)) := by
  have hx : (l.take x).length = x := List.length_take_of_le (by omega)
  have hy' : (l.take y).length = y := List.length_take_of_le hy
  have h := byteSlice_of_prefix (List.take_prefix x l) (List.take_prefix y l) (by omega)
  rw [h, hx, hy']

end Text

theorem SubstKind.utf8Size_prefixChar (k : SubstKind) : k.prefixChar.utf8Size = 1 := by
  cases k <;> decide

namespace Layout

theorem splitAtColumn_add (cs : List Char) (n k : Nat) :
    splitAtColumn cs (n + k) =
      (splitAtColumn cs n).bind fun p => (splitAtColumn p.2 k).map fun q => (p.1 ++ q.1, q.2) := by
  induction n generalizing cs with
  | zero => simp
  | succ n ih =>
    rw [Nat.add_right_comm]
    by_cases hm : markerChars <+: cs
    · rw [splitAtColumn_succ_of_markerChars _ hm, splitAtColumn_succ_of_markerChars _ hm, ih]
      cases splitAtColumn (cs.drop 21) n <;> simp [Function.comp_def]
    · cases cs with
      | nil => rfl
      | cons c rest =>
        rw [splitAtColumn_succ_cons _ hm, splitAtColumn_succ_cons _ hm, ih]
        cases splitAtColumn rest n <;> simp [Function.comp_def]

theorem splitAtColumn_append {cs p q : List Char} {n : Nat}
    (h : splitAtColumn cs n = some (p, q)) : p ++ q = cs := by
  induction n generalizing cs p q with
  | zero => simp_all
  | succ n ih =>
    by_cases hm : markerChars <+: cs
    · rw [splitAtColumn_succ_of_markerChars _ hm] at h
      obtain ⟨⟨p', q'⟩, h', hpq⟩ := Option.map_eq_some_iff.1 h
      simp only [Prod.mk.injEq] at hpq
      obtain ⟨rfl, rfl⟩ := hpq
      rw [List.append_assoc, ih h']
      obtain ⟨t, rfl⟩ := hm
      simp [markerChars_length]
    · cases cs with
      | nil => cases h
      | cons c rest =>
        rw [splitAtColumn_succ_cons _ hm] at h
        obtain ⟨⟨p', q'⟩, h', hpq⟩ := Option.map_eq_some_iff.1 h
        simp only [Prod.mk.injEq] at hpq
        obtain ⟨rfl, rfl⟩ := hpq
        simp [ih h']

theorem le_length_of_splitAtColumn {cs p q : List Char} {n : Nat}
    (h : splitAtColumn cs n = some (p, q)) : n ≤ p.length := by
  induction n generalizing cs p q with
  | zero => simp
  | succ n ih =>
    by_cases hm : markerChars <+: cs
    · rw [splitAtColumn_succ_of_markerChars _ hm] at h
      obtain ⟨⟨p', q'⟩, h', hpq⟩ := Option.map_eq_some_iff.1 h
      simp only [Prod.mk.injEq] at hpq
      obtain ⟨rfl, rfl⟩ := hpq
      have := ih h'
      simp only [List.length_append, markerChars_length]
      omega
    · cases cs with
      | nil => cases h
      | cons c rest =>
        rw [splitAtColumn_succ_cons _ hm] at h
        obtain ⟨⟨p', q'⟩, h', hpq⟩ := Option.map_eq_some_iff.1 h
        simp only [Prod.mk.injEq] at hpq
        obtain ⟨rfl, rfl⟩ := hpq
        have := ih h'
        simp only [List.length_cons]
        omega

theorem length_le_of_splitAtColumn {cs p q p' q' : List Char} {c c' : Nat} (hc : c ≤ c')
    (h : splitAtColumn cs c = some (p, q)) (h' : splitAtColumn cs c' = some (p', q')) :
    p.length + (c' - c) ≤ p'.length := by
  rw [show c' = c + (c' - c) by omega, splitAtColumn_add, h] at h'
  obtain ⟨⟨t, u⟩, ht, htu⟩ := Option.map_eq_some_iff.1 h'
  simp only [Prod.mk.injEq] at htu
  rw [← htu.1, List.length_append]
  have := le_length_of_splitAtColumn ht
  omega

theorem splitAtColumn_of_columnToByte {p r : List Char} {c : Nat}
    (h : columnToByte (String.ofList (p ++ r)) c = some (byteLength p)) :
    splitAtColumn (p ++ r) c = some (p, r) := by
  rw [columnToByte, String.toList_ofList] at h
  obtain ⟨⟨p₀, r₀⟩, h₀, hb⟩ := Option.map_eq_some_iff.1 h
  have happ := splitAtColumn_append h₀
  obtain rfl : p₀ = p := eq_of_prefix_of_byteLength_eq ⟨r₀, happ⟩ ⟨r, rfl⟩ hb
  obtain rfl : r₀ = r := List.append_cancel_left happ
  exact h₀

end Layout

namespace Span

/-- A finished substitution as a row shows it: its prefix and `(` at its start, its `)` just
before its end, at least one column apart. -/
def OnRow (a : Span) (r : List Cell) : Prop :=
  ∃ e, a.stop = some e ∧ a.start + 3 ≤ e ∧ r[a.start]? = some (.char a.kind.prefixChar) ∧
    r[a.start + 1]? = some (.char '(') ∧ r[e - 1]? = some (.char ')')

/-- A finished substitution as a line shows it: from its start column to its end column, the
prefix and `(` at the byte offset of the start, a `)` just before the byte offset of the end. -/
def OnLine (a : Span) (l : List Char) : Prop :=
  ∃ e, a.stop = some e ∧ a.start < e ∧
    (∃ p r, l = p ++ a.kind.prefixChar :: '(' :: r ∧
      columnToByte (String.ofList l) a.start = some (byteLength p)) ∧
    ∃ p r, l = p ++ ')' :: r ∧ columnToByte (String.ofList l) e = some (byteLength p + 1)

theorem OnRow.onLine {a : Span} {r : List Cell} (hf : MarkerFree (sourceCells r))
    (h : a.OnRow r) : a.OnLine (renderCells r) := by
  obtain ⟨e, he, hle, hpre, hopen, hclose⟩ := h
  have hlen : e ≤ r.length := by
    have := (List.getElem?_eq_some_iff.1 hclose).1
    omega
  have hopen₂ : renderCells (r.take (a.start + 2)) =
      renderCells (r.take a.start) ++ [a.kind.prefixChar, '('] := by
    rw [renderCells_take_succ hopen, renderCells_take_succ hpre]
    simp
  have hclose₂ : renderCells (r.take e) = renderCells (r.take (e - 1)) ++ [')'] := by
    have := renderCells_take_succ hclose
    rwa [Nat.sub_add_cancel (by omega)] at this
  have hsplit : ∀ n, renderCells r = renderCells (r.take n) ++ renderCells (r.drop n) :=
    fun n => by rw [← renderCells_append, List.take_append_drop]
  refine ⟨e, he, by omega,
    ⟨renderCells (r.take a.start), renderCells (r.drop (a.start + 2)), ?_, ?_⟩,
    renderCells (r.take (e - 1)), renderCells (r.drop e), ?_, ?_⟩
  · rw [hsplit (a.start + 2), hopen₂]
    simp
  · exact columnToByte_renderCells hf (by omega)
  · rw [hsplit e, hclose₂]
    simp
  · rw [columnToByte_renderCells hf hlen, hclose₂, byteLength_append]
    simp [show Char.utf8Size ')' = 1 from rfl]

/-- A finished substitution of a line at character indices: its prefix at `i`, its `)` at
`j - 1`. -/
structure Located (a : Span) (l : List Char) (i j : Nat) : Prop where
  start : splitAtColumn l a.start = some (l.take i, l.drop i)
  stop : ∃ e, a.stop = some e ∧ splitAtColumn l e = some (l.take j, l.drop j)
  opens : l.drop i = a.kind.prefixChar :: '(' :: l.drop (i + 2)
  closes : l.take j = l.take (j - 1) ++ [')']
  wide : i + 3 ≤ j
  le : j ≤ l.length

theorem prefixChar_ne_rparen (k : SubstKind) : k.prefixChar ≠ ')' := by
  cases k <;> decide

theorem OnLine.located {a : Span} {l : List Char} (h : a.OnLine l) : ∃ i j, a.Located l i j := by
  obtain ⟨e, he, hlt, ⟨p, r, hl, hb⟩, ⟨q, r', hl', hb'⟩⟩ := h
  have hs : splitAtColumn l a.start = some (p, a.kind.prefixChar :: '(' :: r) := by
    rw [hl] at hb ⊢
    exact splitAtColumn_of_columnToByte hb
  have he' : splitAtColumn l e = some (q ++ [')'], r') := by
    have hq : byteLength q + 1 = byteLength (q ++ [')']) := by
      simp [byteLength_append, show Char.utf8Size ')' = 1 from rfl]
    rw [hl', show q ++ ')' :: r' = (q ++ [')']) ++ r' by simp] at hb' ⊢
    exact splitAtColumn_of_columnToByte (hq ▸ hb')
  have hlen := length_le_of_splitAtColumn (Nat.le_of_lt hlt) hs he'
  have h₁ : l[p.length]? = some a.kind.prefixChar := by simp [hl]
  have h₂ : l[p.length + 1]? = some '(' := by simp [hl]
  have h₃ : l[q.length]? = some ')' := by simp [hl']
  -- The `)` stands neither at the prefix nor at the `(`, so at least two characters further on.
  have hne₁ : q.length ≠ p.length := fun heq => by
    rw [heq, h₁] at h₃
    exact prefixChar_ne_rparen a.kind (Option.some.inj h₃)
  have hne₂ : q.length ≠ p.length + 1 := fun heq => by
    rw [heq, h₂] at h₃
    exact absurd (Option.some.inj h₃) (by decide)
  refine ⟨p.length, q.length + 1, ⟨?_, ⟨e, he, ?_⟩, ?_, ?_, ?_, ?_⟩⟩
  · rw [hs, hl]
    simp
  · rw [he', hl']
    simp [List.take_append, List.take_of_length_le]
  · rw [hl]
    simp
  · rw [hl']
    simp [List.take_append, List.take_of_length_le]
  · simp only [List.length_append, List.length_singleton] at hlen
    omega
  · have := congrArg List.length hl'
    simp only [List.length_append, List.length_cons] at this
    omega

section Located

variable {a : Span} {l : List Char} {i j : Nat}

theorem Located.columnToByte_start (h : a.Located l i j) :
    columnToByte (String.ofList l) a.start = some (byteLength (l.take i)) := by
  simp [columnToByte, h.start]

theorem Located.columnToByte_stop (h : a.Located l i j)
    {e : Nat} (he : a.stop = some e) :
    columnToByte (String.ofList l) e = some (byteLength (l.take j)) := by
  obtain ⟨e', he', hs⟩ := h.stop
  obtain rfl : e = e' := Option.some.inj (he.symm.trans he')
  simp [columnToByte, hs]

theorem Located.take_open (h : a.Located l i j) :
    l.take (i + 2) = l.take i ++ [a.kind.prefixChar, '('] := by
  rw [List.take_add, h.opens]
  simp

theorem Located.byteLength_open (h : a.Located l i j) :
    byteLength (l.take (i + 2)) = byteLength (l.take i) + 2 := by
  rw [h.take_open, byteLength_append]
  simp [SubstKind.utf8Size_prefixChar, show Char.utf8Size '(' = 1 from rfl]

theorem Located.byteLength_close (h : a.Located l i j) :
    byteLength (l.take j) = byteLength (l.take (j - 1)) + 1 := by
  rw [h.closes, byteLength_append]
  simp [show Char.utf8Size ')' = 1 from rfl]

theorem Located.byteSlice_inner (h : a.Located l i j) :
    byteSlice l (byteLength (l.take i) + 2) (byteLength (l.take j) - 1) =
      some ((l.drop (i + 2)).take (j - 1 - (i + 2))) := by
  rw [← h.byteLength_open, h.byteLength_close, Nat.add_sub_cancel]
  exact byteSlice_take l (by have := h.wide; omega) (by have := h.le; omega)

theorem Located.byteSlice_before (h : a.Located l i j) :
    byteSlice l 0 (byteLength (l.take i)) = some (l.take i) := by
  simpa using byteSlice_take l (Nat.zero_le i) (by have := h.wide; have := h.le; omega)

theorem Located.not_narrow (h : a.Located l i j) :
    ¬ byteLength (l.take j) < byteLength (l.take i) + 3 := by
  have hle := byteLength_le_of_prefix
    (List.take_prefix_take_left (by have := h.wide; omega) : l.take (i + 2) <+: l.take (j - 1))
  rw [h.byteLength_open] at hle
  rw [h.byteLength_close]
  omega

end Located

theorem Located.le_of_precedes {a b : Span} {l : List Char} {i j i' j' : Nat}
    (ha : a.Located l i j) (hb : b.Located l i' j') (h : ∀ e, a.stop = some e → e ≤ b.start) :
    j ≤ i' := by
  obtain ⟨e, he, hs⟩ := ha.stop
  have hlen := length_le_of_splitAtColumn (h e he) hs hb.start
  rw [List.length_take_of_le ha.le, List.length_take_of_le (by have := hb.wide; have := hb.le; omega)]
    at hlen
  omega

end Span

namespace Target

/-- The call that replaces a substitution with command `inner` written after `before`: it
yields the exit status when `if`, `elif` or `while` is a word of `before` and the output
otherwise, and it echoes the output unless the substitution is `?(…)`. -/
def callText (inner before : List Char) (k : SubstKind) : List Char :=
  ("shell(\"" ++ base64 (shellCommand (String.ofList inner)) ++ "\", " ++
    (if ∃ w ∈ words before, String.ofList w ∈ ["if", "elif", "while"] then "get_rc"
      else "get_stdout") ++
    "=True, silent=" ++ (if k = .quiet then "True" else "False") ++ ", format_dict=locals())").toList

/-- A statement from byte `pos` on, with each substitution of `spans`, taken left to right,
replaced by its call and the text between them copied; `none` when a substitution is open or an
offset does not fall between characters. -/
def spliceCalls (l : List Char) (pos : Nat) : List Span → Option (List Char)
  | [] => byteSlice l pos (byteLength l)
  | a :: rest => do
    let stop ← a.stop
    let b ← columnToByte (String.ofList l) a.start
    let e ← columnToByte (String.ofList l) stop
    let kept ← byteSlice l pos b
    let inner ← byteSlice l (b + 2) (e - 1)
    let before ← byteSlice l 0 b
    let tail ← spliceCalls l e rest
    pure (kept ++ callText inner before a.kind ++ tail)

theorem substitutionCall_toList (inner before : List Char) (k : SubstKind) :
    (substitutionCall (String.ofList inner)
        ((words before).any fun w => conditionKeywords.contains (String.ofList w)) k.silent).toList =
      callText inner before k := by
  have hk : (k.silent = true) = (k = .quiet) := by cases k <;> simp [SubstKind.silent]
  simp [substitutionCall, shellCall, callText, conditionKeywords, hk]

section Located

variable {a : Span} {l : List Char} {i j : Nat}

theorem replaceSpan_located (h : a.Located l i j) (idx : Nat) (t : List Char) :
    replaceSpan idx l (l.take j ++ t) a =
      .ok (l.take i ++ callText ((l.drop (i + 2)).take (j - 1 - (i + 2))) (l.take i) a.kind ++
        t) := by
  obtain ⟨e, he, -⟩ := h.stop
  have hij : i ≤ j := by have := h.wide; omega
  have hi : (l.take i).length = i := List.length_take_of_le (by have := h.le; omega)
  have hj : (l.take j).length = j := List.length_take_of_le h.le
  have hrep : ∀ r, byteReplace (l.take j ++ t) (byteLength (l.take i)) (byteLength (l.take j)) r =
      some (l.take i ++ r ++ t) := fun r => by
    have hpre : l.take i <+: l.take j ++ t :=
      (List.take_prefix_take_left hij).trans (List.prefix_append _ t)
    have h := byteReplace_of_prefix hpre (List.prefix_append _ t) (by omega) r
    rw [h, hi, hj, List.take_append_of_le_length (by omega), List.take_take, Nat.min_eq_left hij,
      List.drop_left' hj]
  simp only [replaceSpan, he, h.columnToByte_start, h.columnToByte_stop he,
    h.not_narrow, if_false, h.byteSlice_inner, h.byteSlice_before, Option.getD_some, hrep,
    substitutionCall_toList]
  rfl

theorem spliceCalls_located (h : a.Located l i j) {x : Nat} (hx : x ≤ i) (rest : List Span) :
    spliceCalls l (byteLength (l.take x)) (a :: rest) =
      (spliceCalls l (byteLength (l.take j)) rest).map fun tail =>
        (l.drop x).take (i - x) ++
          callText ((l.drop (i + 2)).take (j - 1 - (i + 2))) (l.take i) a.kind ++ tail := by
  obtain ⟨e, he, -⟩ := h.stop
  have hkept := byteSlice_take l hx (by have := h.wide; have := h.le; omega)
  simp only [spliceCalls, he, Option.bind_eq_bind, Option.bind_some, h.columnToByte_start, h.columnToByte_stop he, hkept,
    h.byteSlice_inner, h.byteSlice_before]
  cases spliceCalls l (byteLength (l.take j)) rest <;> rfl

end Located

theorem foldlM_reverse_replaceSpan (l : List Char) (idx : Nat) :
    ∀ {ordered : List Span}, (∀ a ∈ ordered, a.OnLine l) →
      ordered.Pairwise (fun a b => ∀ e, a.stop = some e → e ≤ b.start) →
      ∀ {x : Nat}, x ≤ l.length → (∀ a ∈ ordered, ∀ i j, a.Located l i j → x ≤ i) →
      ∃ out, spliceCalls l (byteLength (l.take x)) ordered = some out ∧
        ordered.reverse.foldlM (replaceSpan idx l) l = .ok (l.take x ++ out)
  | [], _, _, x, hx, _ => by
    refine ⟨l.drop x, ?_, by rw [List.take_append_drop]; rfl⟩
    have h := byteSlice_take l hx (Nat.le_refl _)
    rw [List.take_length, List.take_of_length_le (by simp : (l.drop x).length ≤ l.length - x)] at h
    exact h
  | a :: rest, hon, hdisj, x, hx, hfirst => by
    obtain ⟨i, j, hloc⟩ := (hon a List.mem_cons_self).located
    obtain ⟨hprec, hdisj'⟩ := List.pairwise_cons.1 hdisj
    -- The rest is replaced first, and leaves the statement as it was up to the end of `a`.
    obtain ⟨tail, htail, hfold⟩ := foldlM_reverse_replaceSpan l idx
      (fun b hb => hon b (List.mem_cons_of_mem _ hb)) hdisj' hloc.le
      (fun b hb i' j' hb' => hloc.le_of_precedes hb' (hprec b hb))
    have hxi := hfirst a List.mem_cons_self i j hloc
    refine ⟨_, by rw [spliceCalls_located hloc hxi, htail]; rfl, ?_⟩
    rw [List.reverse_cons, List.foldlM_append, hfold]
    simp only [List.foldlM_cons, List.foldlM_nil, bind, Except.bind, replaceSpan_located hloc]
    simp only [← List.append_assoc]
    rw [← List.take_add, Nat.add_sub_cancel' hxi]
    rfl

theorem mergeSort_start_eq_reverse {spans ordered : List Span} (hperm : spans.Perm ordered)
    (hlt : ordered.Pairwise fun a b => a.start < b.start) :
    spans.mergeSort (fun a b => decide (b.start ≤ a.start)) = ordered.reverse := by
  have hperm' : (spans.mergeSort fun a b => decide (b.start ≤ a.start)).Perm ordered.reverse :=
    (List.mergeSort_perm _ _).trans (hperm.trans (List.reverse_perm _).symm)
  have hdesc : ordered.reverse.Pairwise fun a b => b.start < a.start := List.pairwise_reverse.2 hlt
  have hne : (spans.mergeSort fun a b => decide (b.start ≤ a.start)).Pairwise
      fun a b => a.start ≠ b.start :=
    (hperm'.pairwise_iff fun h => Ne.symm h).2 (hdesc.imp fun h => by omega)
  have hsorted := @List.pairwise_mergeSort _ (fun a b : Span => decide (b.start ≤ a.start))
    (fun a b c hab hbc => by simp only [decide_eq_true_eq] at *; omega)
    (fun a b => by simp only [Bool.or_eq_true, decide_eq_true_eq]; omega) spans
  refine hperm'.eq_of_pairwise (fun a b _ _ hab hba => absurd (Nat.lt_trans hab hba) (Nat.lt_irrefl _))
    ((hsorted.and hne).imp fun ⟨hle, hne⟩ => ?_) hdesc
  simp only [decide_eq_true_eq] at hle
  omega

theorem foldlM_mergeSort_replaceSpan (idx : Nat) (l : String) {spans ordered : List Span}
    (hperm : spans.Perm ordered) (hon : ∀ a ∈ ordered, a.OnLine l.toList)
    (hdisj : ordered.Pairwise fun a b => ∀ e, a.stop = some e → e ≤ b.start) :
    ∃ out, spliceCalls l.toList 0 ordered = some out ∧
      (spans.mergeSort fun a b => decide (b.start ≤ a.start)).foldlM (replaceSpan idx l.toList)
        l.toList = .ok out := by
  have hlt : ordered.Pairwise fun a b => a.start < b.start :=
    hdisj.imp_of_mem fun ha _ h => by
      obtain ⟨e, he, hle, -⟩ := hon _ ha
      exact Nat.lt_of_lt_of_le hle (h e he)
  obtain ⟨out, hsplice, hfold⟩ := foldlM_reverse_replaceSpan l.toList idx hon hdisj
    (Nat.zero_le _) fun _ _ _ _ _ => Nat.zero_le _
  refine ⟨out, by simpa using hsplice, ?_⟩
  rw [mergeSort_start_eq_reverse hperm hlt, hfold]
  rfl

theorem rewriteBlended_of_foldlM {idx : Nat} {l : String} {spans : List Span} {out : List Char}
    (hne : spans.isEmpty = false)
    (h : (spans.mergeSort fun a b => decide (b.start ≤ a.start)).foldlM (replaceSpan idx l.toList)
      l.toList = .ok out) :
    rewriteBlended idx l spans = .ok (String.ofList out) := by
  simp only [rewriteBlended, hne, h]
  rfl

/-- The in-place rewrite of a blended statement, rightmost start first, is the left-to-right
splice of the statement as written: for substitutions that are finished, apart and where the
statement shows them, listed in any order, each is replaced by its call and the text between
them is kept. Only with no substitution at all is one missing. -/
theorem rewriteBlended_eq_spliceCalls (idx : Nat) (l : String) {spans ordered : List Span}
    (hperm : spans.Perm ordered) (hon : ∀ a ∈ ordered, a.OnLine l.toList)
    (hdisj : ordered.Pairwise fun a b => ∀ e, a.stop = some e → e ≤ b.start) :
    ∃ out, spliceCalls l.toList 0 ordered = some out ∧
      rewriteBlended idx l spans =
        if spans.isEmpty then .error (.missing (idx + 1)) else .ok (String.ofList out) := by
  obtain ⟨out, hsplice, hfold⟩ := foldlM_mergeSort_replaceSpan idx l hperm hon hdisj
  refine ⟨out, hsplice, ?_⟩
  cases hempty : spans.isEmpty
  · rw [rewriteBlended_of_foldlM hempty hfold]
    rfl
  · simp only [rewriteBlended, hempty]
    rfl

theorem rewriteBlended_eq_spliceCalls_pair :
    [(⟨0, 19, some 26, .bang⟩ : Span), ⟨0, 8, some 17, .dollar⟩].Perm
        [⟨0, 8, some 17, .dollar⟩, ⟨0, 19, some 26, .bang⟩] ∧
      (∀ a ∈ [(⟨0, 8, some 17, .dollar⟩ : Span), ⟨0, 19, some 26, .bang⟩],
        a.OnLine "pair = ($(whoami), !(date))".toList) ∧
      [(⟨0, 8, some 17, .dollar⟩ : Span), ⟨0, 19, some 26, .bang⟩].Pairwise
        (fun a b => ∀ e, a.stop = some e → e ≤ b.start) ∧
      ∃ out, spliceCalls "pair = ($(whoami), !(date))".toList 0
          [⟨0, 8, some 17, .dollar⟩, ⟨0, 19, some 26, .bang⟩] = some out ∧
        rewriteBlended 0 "pair = ($(whoami), !(date))"
            [⟨0, 19, some 26, .bang⟩, ⟨0, 8, some 17, .dollar⟩] =
          if [(⟨0, 19, some 26, .bang⟩ : Span), ⟨0, 8, some 17, .dollar⟩].isEmpty then
            .error (.missing (0 + 1))
          else .ok (String.ofList out) := by
  have hperm : [(⟨0, 19, some 26, .bang⟩ : Span), ⟨0, 8, some 17, .dollar⟩].Perm
      [⟨0, 8, some 17, .dollar⟩, ⟨0, 19, some 26, .bang⟩] := List.Perm.swap _ _ _
  have hon : ∀ a ∈ [(⟨0, 8, some 17, .dollar⟩ : Span), ⟨0, 19, some 26, .bang⟩],
      a.OnLine "pair = ($(whoami), !(date))".toList := by
    intro a ha
    simp only [List.mem_cons, List.not_mem_nil, or_false] at ha
    rcases ha with rfl | rfl
    · exact ⟨17, rfl, by decide, ⟨"pair = (".toList, "whoami), !(date))".toList, by decide,
        by decide⟩, ⟨"pair = ($(whoami".toList, ", !(date))".toList, by decide, by decide⟩⟩
    · exact ⟨26, rfl, by decide, ⟨"pair = ($(whoami), ".toList, "date))".toList, by decide,
        by decide⟩, ⟨"pair = ($(whoami), !(date".toList, ")".toList, by decide, by decide⟩⟩
  have hdisj : [(⟨0, 8, some 17, .dollar⟩ : Span), ⟨0, 19, some 26, .bang⟩].Pairwise
      (fun a b => ∀ e, a.stop = some e → e ≤ b.start) := by
    simp
  exact ⟨hperm, hon, hdisj, rewriteBlended_eq_spliceCalls 0 _ hperm hon hdisj⟩

/-- Without a substitution the statement is not copied as the empty splice would have it: the
rewrite reports the substitution missing. -/
theorem rewriteBlended_without_substitution :
    spliceCalls "x = 1".toList 0 [] = some "x = 1".toList ∧
      rewriteBlended 0 "x = 1" [] = .error (.missing 1) :=
  ⟨by decide, rfl⟩

end Target

end MixedScript
