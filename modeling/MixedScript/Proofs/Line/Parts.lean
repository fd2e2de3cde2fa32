import MixedScript.Line.Parts

/-!
# The parts of a statement, as a grammar

`Split ps line` says that the line is the parts `ps` in order with only separators around them,
each a word, a closed group or string, or last of all one the line leaves open. The splitter is
proved to produce such a split by one induction over the line.
-/

namespace MixedScript.Line

/-- The inside of a string opened by `q`: characters other than `q` and the backslash, and
escapes, each a backslash and the character it escapes. -/
inductive StringBody (q : Char) : List Char → Prop
  | nil : StringBody q []
  | plain {c : Char} {s : List Char} : c ≠ '\\' → c ≠ q → StringBody q s → StringBody q (c :: s)
  | escape {c : Char} {s : List Char} : StringBody q s → StringBody q ('\\' :: c :: s)

/-- The inside of a bracketed group: characters that are no quote and no bracket, strings, and
nested groups. -/
inductive Balanced : List Char → Prop
  | nil : Balanced []
  | plain {c : Char} {r : List Char} : isQuote c = false → isOpener c = false →
      isCloser c = false → Balanced r → Balanced (c :: r)
  | string {q : Char} {s r : List Char} : isQuote q = true → StringBody q s → Balanced r →
      Balanced (q :: s ++ q :: r)
  | group {o c : Char} {b r : List Char} : isOpener o = true → Balanced b → isCloser c = true →
      Balanced r → Balanced (o :: b ++ c :: r)

/-- A group up to the closer that balances its opener, or a string up to its closing quote. -/
def Closed (p : List Char) : Prop :=
  (∃ o b c, isOpener o = true ∧ Balanced b ∧ isCloser c = true ∧ p = o :: b ++ [c]) ∨
    ∃ q s, isQuote q = true ∧ StringBody q s ∧ p = q :: s ++ [q]

/-- A word holds no separator, opener or quote. -/
def IsWord (p : List Char) : Prop :=
  ∀ c ∈ p, isSeparator c = false ∧ isOpener c = false ∧ isQuote c = false

/-- A part that begins with an opener or a quote. -/
def OpensRun (p : List Char) : Prop :=
  ∃ c ∈ p.head?, isOpener c = true ∨ isQuote c = true

/-- Only separators. -/
def Separators (g : List Char) : Prop :=
  ∀ c ∈ g, isSeparator c = true

/-- The line is the parts in order, with only separators before, between and after them. -/
inductive Tiles : List (List Char) → List Char → Prop
  | gap {g : List Char} : Separators g → Tiles [] g
  | part {g p : List Char} {ps : List (List Char)} {rest : List Char} : Separators g →
      Tiles ps rest → Tiles (p :: ps) (g ++ p ++ rest)

/-- A split of a line into parts: words and closed groups or strings, each after separators,
and at the very end either separators or a group or string that the line leaves open. -/
inductive Split : List (List Char) → List Char → Prop
  | stop {g : List Char} : Separators g → Split [] g
  | word {g w : List Char} {ps : List (List Char)} {rest : List Char} : Separators g → w ≠ [] →
      IsWord w → Split ps rest → Split (w :: ps) (g ++ w ++ rest)
  | closed {g p : List Char} {ps : List (List Char)} {rest : List Char} : Separators g →
      Closed p → Split ps rest → Split (p :: ps) (g ++ p ++ rest)
  | unclosed {g : List Char} {c : Char} {p : List Char} : Separators g →
      (isOpener c = true ∨ isQuote c = true) → Split [c :: p] (g ++ c :: p)

/-! ### The grammar -/

theorem StringBody.append {q : Char} {a b : List Char} (ha : StringBody q a)
    (hb : StringBody q b) : StringBody q (a ++ b) := by
  induction ha with
  | nil => exact hb
  | plain hc hq _ ih => exact .plain hc hq ih
  | escape _ ih => exact .escape ih

theorem Balanced.append {a b : List Char} (ha : Balanced a) (hb : Balanced b) :
    Balanced (a ++ b) := by
  induction ha with
  | nil => exact hb
  | plain hq ho hc _ ih => exact .plain hq ho hc ih
  | string hq hs _ ih =>
    simpa only [List.append_assoc, List.cons_append] using Balanced.string hq hs ih
  | group ho hb' hc _ _ ih =>
    simpa only [List.append_assoc, List.cons_append] using Balanced.group ho hb' hc ih

theorem Balanced.single_string {q : Char} {s : List Char} (hq : isQuote q = true)
    (hs : StringBody q s) : Balanced (q :: s ++ [q]) :=
  .string hq hs .nil

theorem Balanced.single_group {o c : Char} {b : List Char} (ho : isOpener o = true)
    (hb : Balanced b) (hc : isCloser c = true) : Balanced (o :: b ++ [c]) :=
  .group ho hb hc .nil

theorem Closed.ne_nil {p : List Char} (h : Closed p) : p ≠ [] := by
  rcases h with ⟨o, b, c, -, -, -, rfl⟩ | ⟨q, s, -, -, rfl⟩ <;> exact List.cons_ne_nil _ _

theorem Closed.opensRun {p : List Char} (h : Closed p) : OpensRun p := by
  rcases h with ⟨o, b, c, ho, -, -, rfl⟩ | ⟨q, s, hq, -, rfl⟩
  · exact ⟨o, rfl, .inl ho⟩
  · exact ⟨q, rfl, .inr hq⟩

theorem IsWord.not_opensRun {w : List Char} (h : IsWord w) : ¬ OpensRun w := by
  rintro ⟨c, hc, hrun⟩
  have hmem : c ∈ w := List.mem_of_mem_head? hc
  obtain ⟨-, ho, hq⟩ := h c hmem
  rcases hrun with h' | h' <;> simp_all

/-- The inside of a group read so far, with `d` brackets opened in it and not yet closed:
balanced text between the openers. -/
inductive Unclosed : Nat → List Char → Prop
  | balanced {b : List Char} : Balanced b → Unclosed 0 b
  | opened {d : Nat} {s b : List Char} {o : Char} : Unclosed d s → isOpener o = true →
      Balanced b → Unclosed (d + 1) (s ++ o :: b)

theorem Unclosed.append {d : Nat} {s x : List Char} (h : Unclosed d s) (hx : Balanced x) :
    Unclosed d (s ++ x) := by
  cases h with
  | balanced hb => exact .balanced (hb.append hx)
  | opened hs ho hb =>
    rw [List.append_assoc, List.cons_append]
    exact .opened hs ho (hb.append hx)

theorem Unclosed.close {d : Nat} {s : List Char} {c : Char} (h : Unclosed (d + 1) s)
    (hc : isCloser c = true) : Unclosed d (s ++ [c]) := by
  cases h with
  | opened hs ho hb =>
    rw [List.append_assoc, List.cons_append]
    exact hs.append (.single_group ho hb hc)

/-- A string read so far: its body, and when `esc` a backslash that escapes what comes next. -/
def StringSoFar (q : Char) : Bool → List Char → Prop
  | false, s => StringBody q s
  | true, s => ∃ s', s = s' ++ ['\\'] ∧ StringBody q s'

theorem StringSoFar.backslash {q : Char} {s : List Char} (h : StringSoFar q false s) :
    StringSoFar q true (s ++ ['\\']) :=
  ⟨s, rfl, h⟩

theorem StringSoFar.push {q x : Char} {esc : Bool} {s : List Char} (h : StringSoFar q esc s)
    (hx : ¬ (x = '\\' ∧ esc = false)) (hq : ¬ (x = q ∧ esc = false)) :
    StringSoFar q false (s ++ [x]) := by
  cases esc with
  | false =>
    have hx' : x ≠ '\\' := fun h' => hx ⟨h', rfl⟩
    have hq' : x ≠ q := fun h' => hq ⟨h', rfl⟩
    exact StringBody.append h (.plain hx' hq' .nil)
  | true =>
    obtain ⟨s', rfl, hs'⟩ := h
    show StringBody q (s' ++ ['\\'] ++ [x])
    rw [List.append_assoc]
    exact hs'.append (.escape .nil)

/-! ### Splits -/

theorem Separators.cons {c : Char} {g : List Char} (hc : isSeparator c = true)
    (hg : Separators g) : Separators (c :: g) := by
  intro x hx
  rcases List.mem_cons.1 hx with rfl | hx
  · exact hc
  · exact hg x hx

theorem Split.cons_separator {c : Char} {ps : List (List Char)} {l : List Char}
    (hc : isSeparator c = true) (h : Split ps l) : Split ps (c :: l) := by
  cases h with
  | stop hg => exact .stop (hg.cons hc)
  | word hg hw hword hs => exact .word (g := c :: _) (hg.cons hc) hw hword hs
  | closed hg hp hs => exact .closed (g := c :: _) (hg.cons hc) hp hs
  | unclosed hg hrun => exact .unclosed (g := c :: _) (hg.cons hc) hrun

theorem Split.tiles {ps : List (List Char)} {l : List Char} (h : Split ps l) : Tiles ps l := by
  induction h with
  | stop hg => exact .gap hg
  | word hg _ _ _ ih => exact .part hg ih
  | closed hg _ _ ih => exact .part hg ih
  | unclosed hg _ =>
    rw [← List.append_nil (_ ++ _ :: _)]
    exact .part hg (.gap fun _ h => absurd h List.not_mem_nil)

theorem Split.ne_nil {ps : List (List Char)} {l : List Char} (h : Split ps l) :
    ∀ p ∈ ps, p ≠ [] := by
  induction h with
  | stop => simp
  | word _ hw _ _ ih => exact List.forall_mem_cons.2 ⟨hw, ih⟩
  | closed _ hp _ ih => exact List.forall_mem_cons.2 ⟨hp.ne_nil, ih⟩
  | unclosed => simp

theorem Split.isWord {ps : List (List Char)} {l : List Char} (h : Split ps l) :
    ∀ p ∈ ps, ¬ OpensRun p → IsWord p := by
  induction h with
  | stop => simp
  | word _ _ hword _ ih => exact List.forall_mem_cons.2 ⟨fun _ => hword, ih⟩
  | closed _ hp _ ih => exact List.forall_mem_cons.2 ⟨fun h => absurd hp.opensRun h, ih⟩
  | unclosed _ hrun =>
    intro p hp hno
    rw [List.mem_singleton] at hp
    subst hp
    exact absurd ⟨_, rfl, hrun⟩ hno

theorem Split.closed_of_dropLast {ps : List (List Char)} {l : List Char} (h : Split ps l) :
    ∀ p ∈ ps.dropLast, OpensRun p → Closed p := by
  induction h with
  | stop => simp
  | @word _ w ps _ _ _ hword _ ih =>
    cases ps with
    | nil => simp
    | cons p ps =>
      rw [List.dropLast_cons_cons]
      exact List.forall_mem_cons.2 ⟨fun h => absurd h hword.not_opensRun, ih⟩
  | @closed _ p ps _ _ hp _ ih =>
    cases ps with
    | nil => simp
    | cons p' ps =>
      rw [List.dropLast_cons_cons]
      exact List.forall_mem_cons.2 ⟨fun _ => hp, ih⟩
  | unclosed => simp

/-! ### The splitter -/

/-- The characters of the part under way. -/
def PartState.text : PartState → List Char
  | .between => []
  | .word acc => acc.reverse
  | .group acc _ _ => acc.reverse
  | .quoted acc _ => acc.reverse

/-- What the splitter has read of the part under way: a word so far, a string so far, or a
group so far with its depth (counting its own opener) and any string open in it. -/
def Pending : PartState → Bool → Prop
  | .between, _ => True
  | .word acc, _ => acc ≠ [] ∧ IsWord acc
  | .quoted acc q, esc => isQuote q = true ∧ ∃ s, acc.reverse = q :: s ∧ StringSoFar q esc s
  | .group _ 0 _, _ => False
  | .group acc (d + 1) none, _ =>
    ∃ o s, acc.reverse = o :: s ∧ isOpener o = true ∧ Unclosed d s
  | .group acc (d + 1) (some q), esc =>
    ∃ o s t, acc.reverse = o :: s ++ q :: t ∧ isOpener o = true ∧ Unclosed d s ∧
      isQuote q = true ∧ StringSoFar q esc t

theorem IsWord.cons {c : Char} {w : List Char} (hc : isSeparator c = false ∧ isOpener c = false ∧
    isQuote c = false) (hw : IsWord w) : IsWord (c :: w) := by
  intro x hx
  rcases List.mem_cons.1 hx with rfl | hx
  · exact hc
  · exact hw x hx

theorem pending_start {c : Char} (hc : isSeparator c = false) :
    Pending (PartState.start c) false ∧ (PartState.start c).text = [c] := by
  have hsep : ¬ isSeparator c = true := by simp [hc]
  by_cases ho : isOpener c = true
  · rw [PartState.start, if_neg hsep, if_pos ho]
    exact ⟨⟨c, [], rfl, ho, .balanced .nil⟩, rfl⟩
  · by_cases hq : isQuote c = true
    · rw [PartState.start, if_neg hsep, if_neg ho, if_pos hq]
      exact ⟨⟨hq, [], rfl, StringBody.nil⟩, rfl⟩
    · rw [PartState.start, if_neg hsep, if_neg ho, if_neg hq]
      refine ⟨⟨List.cons_ne_nil _ _, IsWord.cons ⟨hc, ?_, ?_⟩ fun _ h => absurd h List.not_mem_nil⟩,
        rfl⟩
      · simpa using ho
      · simpa using hq

section Step

variable {xs : List Char}

/-- What the rest of the line splits into from any state the splitter can be in. -/
def SplitsFrom (xs : List Char) : Prop :=
  ∀ st esc, Pending st esc → Split (splitFrom st esc xs) (st.text ++ xs)

theorem split_between (ih : SplitsFrom xs) : Split (splitFrom .between false xs) xs :=
  ih .between false trivial

theorem split_start {c : Char} (ih : SplitsFrom xs) :
    Split (splitFrom (PartState.start c) false xs) (c :: xs) := by
  cases hc : isSeparator c with
  | true =>
    have hst : PartState.start c = .between := by simp [PartState.start, hc]
    rw [hst]
    exact (split_between ih).cons_separator hc
  | false =>
    obtain ⟨hp, htext⟩ := pending_start hc
    simpa [htext] using ih _ false hp

theorem split_word {acc : List Char} {c : Char} {esc : Bool} (ih : SplitsFrom xs)
    (h : Pending (.word acc) esc) :
    Split (splitFrom (.word acc) esc (c :: xs)) (acc.reverse ++ c :: xs) := by
  obtain ⟨hne, hword⟩ := h
  have hw : IsWord acc.reverse := fun x hx => hword x (List.mem_reverse.1 hx)
  simp only [splitFrom]
  split
  · rename_i hend
    exact .word (g := []) (fun _ h => absurd h List.not_mem_nil) (by simpa using hne) hw
      (split_start ih)
  · rename_i hmore
    have hc : isSeparator c = false ∧ isOpener c = false ∧ isQuote c = false := by
      simpa [not_or, and_assoc] using hmore
    simpa [PartState.text] using
      ih (.word (c :: acc)) false ⟨List.cons_ne_nil _ _, hword.cons hc⟩

theorem split_quoted {acc : List Char} {q c : Char} {esc : Bool} (ih : SplitsFrom xs)
    (h : Pending (.quoted acc q) esc) :
    Split (splitFrom (.quoted acc q) esc (c :: xs)) (acc.reverse ++ c :: xs) := by
  obtain ⟨hq, s, hacc, hs⟩ := h
  simp only [splitFrom]
  split
  · rename_i hb
    obtain ⟨rfl, hesc⟩ : c = '\\' ∧ esc = false := by simpa using hb
    subst hesc
    simpa [PartState.text] using
      ih (.quoted ('\\' :: acc) q) true ⟨hq, s ++ ['\\'], by simp [hacc], hs.backslash⟩
  · split
    · rename_i _ hclose
      obtain ⟨rfl, hesc⟩ : c = q ∧ esc = false := by simpa using hclose
      subst hesc
      have hclosed : Closed (acc.reverse ++ [c]) := .inr ⟨c, s, hq, hs, by simp [hacc]⟩
      simpa using Split.closed (g := []) (fun _ h => absurd h List.not_mem_nil) hclosed
        (split_between ih)
    · rename_i hb hclose
      have hs' := hs.push (x := c) (by simpa using hb) (by simpa using hclose)
      simpa [PartState.text] using
        ih (.quoted (c :: acc) q) false ⟨hq, s ++ [c], by simp [hacc], hs'⟩

theorem split_group_string {acc : List Char} {d : Nat} {q c : Char} {esc : Bool}
    (ih : SplitsFrom xs) (h : Pending (.group acc (d + 1) (some q)) esc) :
    Split (splitFrom (.group acc (d + 1) (some q)) esc (c :: xs)) (acc.reverse ++ c :: xs) := by
  obtain ⟨o, s, t, hacc, ho, hs, hq, ht⟩ := h
  simp only [splitFrom]
  split
  · rename_i hb
    obtain ⟨rfl, hesc⟩ : c = '\\' ∧ esc = false := by simpa using hb
    subst hesc
    simpa [PartState.text] using ih (.group ('\\' :: acc) (d + 1) (some q)) true
      ⟨o, s, t ++ ['\\'], by simp [hacc], ho, hs, hq, ht.backslash⟩
  · split
    · rename_i _ hclose
      obtain ⟨rfl, hesc⟩ : c = q ∧ esc = false := by simpa using hclose
      subst hesc
      -- the string closes and joins the balanced text of the innermost open bracket
      have hs' : Unclosed d (s ++ (c :: t ++ [c])) := hs.append (.single_string hq ht)
      simpa [PartState.text] using ih (.group (c :: acc) (d + 1) none) false
        ⟨o, s ++ (c :: t ++ [c]), by simp [hacc], ho, hs'⟩
    · rename_i hb hclose
      have ht' := ht.push (x := c) (by simpa using hb) (by simpa using hclose)
      simpa [PartState.text] using ih (.group (c :: acc) (d + 1) (some q)) false
        ⟨o, s, t ++ [c], by simp [hacc], ho, hs, hq, ht'⟩

theorem split_group {acc : List Char} {d : Nat} {c : Char} {esc : Bool}
    (ih : SplitsFrom xs) (h : Pending (.group acc (d + 1) none) esc) :
    Split (splitFrom (.group acc (d + 1) none) esc (c :: xs)) (acc.reverse ++ c :: xs) := by
  obtain ⟨o, s, hacc, ho, hs⟩ := h
  simp only [splitFrom]
  split
  · rename_i hq
    simpa [PartState.text] using ih (.group (c :: acc) (d + 1) (some c)) false
      ⟨o, s, [], by simp [hacc], ho, hs, hq, StringBody.nil⟩
  · rename_i hq
    split
    · rename_i hopen
      have hs' : Unclosed (d + 1) (s ++ c :: []) := .opened hs hopen .nil
      simpa [PartState.text] using ih (.group (c :: acc) (d + 1 + 1) none) false
        ⟨o, s ++ [c], by simp [hacc], ho, hs'⟩
    · rename_i hopen
      split
      · rename_i hclose
        split
        · rename_i hd
          -- the closer balances the group's own opener: the part ends here
          obtain rfl : d = 0 := by simpa using hd
          have hb : Balanced s := by cases hs with | balanced hb => exact hb
          have hclosed : Closed (acc.reverse ++ [c]) :=
            .inl ⟨o, s, c, ho, hb, hclose, by simp [hacc]⟩
          simpa using Split.closed (g := []) (fun _ h => absurd h List.not_mem_nil) hclosed
            (split_between ih)
        · rename_i hd
          obtain ⟨d, rfl⟩ : ∃ d', d = d' + 1 := Nat.exists_eq_succ_of_ne_zero (by simpa using hd)
          simpa [PartState.text] using ih (.group (c :: acc) (d + 1) none) false
            ⟨o, s ++ [c], by simp [hacc], ho, hs.close hclose⟩
      · rename_i hclose
        have hplain : Balanced [c] :=
          .plain (by simpa using hq) (by simpa using hopen) (by simpa using hclose) .nil
        simpa [PartState.text] using ih (.group (c :: acc) (d + 1) none) false
          ⟨o, s ++ [c], by simp [hacc], ho, hs.append hplain⟩

theorem split_end {st : PartState} {esc : Bool} (h : Pending st esc) :
    Split (splitFrom st esc []) st.text := by
  have hnil : Separators [] := fun _ h => absurd h List.not_mem_nil
  cases st with
  | between => exact .stop hnil
  | word acc =>
    obtain ⟨hne, hword⟩ := h
    simpa [splitFrom, PartState.text] using Split.word (g := []) hnil (by simpa using hne)
      (fun x hx => hword x (List.mem_reverse.1 hx)) (.stop hnil)
  | quoted acc q =>
    obtain ⟨hq, s, hacc, -⟩ := h
    simpa [splitFrom, PartState.text, hacc] using Split.unclosed (g := []) hnil (.inr hq)
  | group acc d quote =>
    cases d with
    | zero => exact absurd h id
    | succ d =>
      cases quote with
      | none =>
        obtain ⟨o, s, hacc, ho, -⟩ := h
        simpa [splitFrom, PartState.text, hacc] using Split.unclosed (g := []) hnil (.inl ho)
      | some q =>
        obtain ⟨o, s, t, hacc, ho, -⟩ := h
        simpa [splitFrom, PartState.text, hacc] using Split.unclosed (g := []) hnil (.inl ho)

theorem splitsFrom (xs : List Char) : SplitsFrom xs := by
  induction xs with
  | nil =>
    intro st esc h
    simpa using split_end h
  | cons c xs ih =>
    intro st esc h
    cases st with
    | between => simpa [splitFrom, PartState.text] using split_start ih
    | word acc => exact split_word ih h
    | quoted acc q => exact split_quoted ih h
    | group acc d quote =>
      cases d with
      | zero => exact absurd h id
      | succ d =>
        cases quote with
        | none => exact split_group ih h
        | some q => exact split_group_string ih h

end Step

theorem split_splitParts (line : List Char) : Split (splitParts line) line :=
  splitsFrom line .between false trivial

/-- The parts of a statement are nonempty, lie left to right with only blanks, dots and colons
around them, and a part that begins with neither an opener nor a quote is a word; every part but
the last that does begin with one ends at the closer that balances it or at its closing quote. -/
theorem splitParts_parts (line : List Char) :
    Tiles (splitParts line) line ∧ (∀ p ∈ splitParts line, p ≠ []) ∧
      (∀ p ∈ splitParts line, ¬ OpensRun p → IsWord p) ∧
      (∀ p ∈ (splitParts line).dropLast, OpensRun p → Closed p) :=
  let h := split_splitParts line
  ⟨h.tiles, h.ne_nil, h.isWord, h.closed_of_dropLast⟩

end MixedScript.Line
