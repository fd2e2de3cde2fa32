import Mathlib
import MixedScript.Scope.Collect
import MixedScript.Proofs.Directive.Artifact

/-!
# The names that import statements bind

A script made of well-formed `import` and `from … import` statements and of lines that begin
none is described without the patterns. On such a script `collectImports` returns exactly the
names the statements bind, those of the `import` statements first, each in order.
-/

namespace MixedScript.Scope

open MixedScript.Text

/-! ### Statements -/

/-- Spaces and tabs. -/
def InlineBlanks (b : List Char) : Prop :=
  ∀ c ∈ b, isInlineBlank c = true

/-- Blank characters, newlines included. -/
def Blanks (b : List Char) : Prop :=
  ∀ c ∈ b, isBlank c = true

/-- Blank characters other than the newline. -/
def LineBlanks (b : List Char) : Prop :=
  ∀ c ∈ b, isBlank c = true ∧ c ≠ '\n'

/-- A name: one or more word characters. -/
def IsName (x : List Char) : Prop :=
  x ≠ [] ∧ ∀ c ∈ x, isWordChar c = true

/-- A module after `from`: word characters and dots. -/
def IsModule (m : List Char) : Prop :=
  m ≠ [] ∧ ∀ c ∈ m, isWordChar c = true ∨ c = '.'

instance (b : List Char) : Decidable (InlineBlanks b) :=
  decidable_of_iff (b.all isInlineBlank = true) (by simp [InlineBlanks])

instance (b : List Char) : Decidable (Blanks b) :=
  decidable_of_iff (b.all isBlank = true) (by simp [Blanks])

instance (x : List Char) : Decidable (IsName x) :=
  decidable_of_iff (x ≠ [] ∧ x.all isWordChar = true) (by simp [IsName])

instance (m : List Char) : Decidable (IsModule m) :=
  decidable_of_iff (m ≠ [] ∧ (m.all fun c => isWordChar c || c == '.') = true) (by simp [IsModule])

/-- What may close the last line of a statement: blanks, then perhaps a comment. -/
def StatementEnd (e : List Char) : Prop :=
  ∃ b r, LineBlanks b ∧ '\n' ∉ r ∧ (r = [] ∨ r.head? = some '#') ∧ e = b ++ r

/-- An item of `import` and the name it binds: a dotted module binds its first part, a module
with an alias binds the alias. -/
inductive PlainItem : List Char → List Char → Prop
  | module {x : List Char} {parts : List (List Char)} : IsName x → (∀ p ∈ parts, IsName p) →
      PlainItem (List.intercalate ['.'] (x :: parts)) x
  | aliased {x y b₁ b₂ : List Char} {parts : List (List Char)} : IsName x →
      (∀ p ∈ parts, IsName p) → LineBlanks b₁ → b₁ ≠ [] → LineBlanks b₂ → b₂ ≠ [] → IsName y →
      PlainItem (List.intercalate ['.'] (x :: parts) ++ b₁ ++ "as".toList ++ b₂ ++ y) y

/-- An item of `from … import` and the name it binds, with gaps `G` around `as`. -/
inductive FromItem (G : List Char → Prop) : List Char → List Char → Prop
  | name {x : List Char} : IsName x → FromItem G x x
  | aliased {x y b₁ b₂ : List Char} : IsName x → G b₁ → b₁ ≠ [] → G b₂ → b₂ ≠ [] → IsName y →
      FromItem G (x ++ b₁ ++ "as".toList ++ b₂ ++ y) y

/-- Items separated by commas, with gaps `G` around each comma, and the names they bind. -/
inductive Items (Item : List Char → List Char → Prop) (G : List Char → Prop) :
    List Char → List (List Char) → Prop
  | one {t n : List Char} : Item t n → Items Item G t [n]
  | cons {t n g₁ g₂ rest : List Char} {ns : List (List Char)} : Item t n → G g₁ → G g₂ →
      Items Item G rest ns → Items Item G (t ++ g₁ ++ ',' :: g₂ ++ rest) (n :: ns)

/-- The start of `import`: spaces and tabs, the keyword, and at least one space or tab. -/
def ImportHead (h : List Char) : Prop :=
  ∃ lead b, InlineBlanks lead ∧ InlineBlanks b ∧ b ≠ [] ∧ h = lead ++ "import".toList ++ b

/-- The start of `from … import`: spaces and tabs, `from`, a module and `import`, with at least
one space or tab after each of the three. -/
def FromHead (h : List Char) : Prop :=
  ∃ lead b₁ m b₂ b₃, InlineBlanks lead ∧ InlineBlanks b₁ ∧ b₁ ≠ [] ∧ IsModule m ∧
    InlineBlanks b₂ ∧ b₂ ≠ [] ∧ InlineBlanks b₃ ∧ b₃ ≠ [] ∧
    h = lead ++ "from".toList ++ b₁ ++ m ++ b₂ ++ "import".toList ++ b₃

/-- An import statement as written, from the start of its line to the end of its last line,
with the names it binds as an `import` and as a `from … import`. -/
inductive Statement : List Char → List (List Char) → List (List Char) → Prop
  | plain {h items e : List Char} {ns : List (List Char)} : ImportHead h →
      Items PlainItem LineBlanks items ns → StatementEnd e → Statement (h ++ items ++ e) ns []
  | star {h e : List Char} : FromHead h → StatementEnd e → Statement (h ++ '*' :: e) [] []
  | names {h items e : List Char} {ns : List (List Char)} : FromHead h →
      Items (FromItem LineBlanks) LineBlanks items ns → StatementEnd e →
      Statement (h ++ items ++ e) [] ns
  | bracketed {h p₁ items p₂ comma p₃ e : List Char} {ns : List (List Char)} : FromHead h →
      Blanks p₁ → Items (FromItem Blanks) Blanks items ns → Blanks p₂ →
      (comma = [] ∨ comma = [',']) → Blanks p₃ → StatementEnd e →
      Statement (h ++ '(' :: p₁ ++ items ++ p₂ ++ comma ++ p₃ ++ ')' :: e) [] ns

/-- A line that begins, after spaces and tabs, with the keyword `kw` and a space or a tab. -/
def StartsWithKeyword (kw line : List Char) : Prop :=
  ∃ lead c rest, InlineBlanks lead ∧ isInlineBlank c = true ∧ line = lead ++ kw ++ c :: rest

/-- A line that begins like an import statement. -/
def StartsImport (line : List Char) : Prop :=
  StartsWithKeyword "import".toList line ∨ StartsWithKeyword "from".toList line

/-- A piece of a script: a line that begins no import statement, or a whole statement whose
further lines begin none either. -/
inductive Chunk : List Char → List (List Char) → List (List Char) → Prop
  | other {line : List Char} : '\n' ∉ line → ¬ StartsImport line → Chunk line [] []
  | statement {t : List Char} {ps fs : List (List Char)} : Statement t ps fs →
      (∀ l ∈ (t.splitOn '\n').tail, ¬ StartsImport l) → Chunk t ps fs

/-- A script as chunks joined by newlines, with the names that its `import` statements and its
`from` statements bind, in order. -/
inductive Script : List Char → List (List Char) → List (List Char) → Prop
  | last {t : List Char} {ps fs : List (List Char)} : Chunk t ps fs → Script t ps fs
  | cons {t rest : List Char} {ps fs ps' fs' : List (List Char)} : Chunk t ps fs →
      Script rest ps' fs' → Script (t ++ '\n' :: rest) (ps ++ ps') (fs ++ fs')

/-! ### Characters -/

theorem not_inRanges_wideBlanks :
    ([0x85, 0xA0, 0x1680, 0x2000, 0x2001, 0x2002, 0x2003, 0x2004, 0x2005, 0x2006, 0x2007, 0x2008,
      0x2009, 0x200A, 0x2028, 0x2029, 0x202F, 0x205F, 0x3000] : List Nat).all
      (fun n => !wordRanges.toList.any fun r => r.1 ≤ n && n ≤ r.2) = true := by
  decide +kernel

theorem isWordChar_eq_false_of_isBlank {c : Char} (h : isBlank c = true) :
    isWordChar c = false := by
  unfold isBlank at h
  unfold isWordChar
  by_cases hlt : c.toNat < 0x80
  · simp only [hlt, if_true] at h ⊢
    have hc : c = ' ' ∨ c = '\t' ∨ c = '\n' ∨ c = '\x0b' ∨ c = '\x0c' ∨ c = '\r' := by
      simp only [Bool.or_eq_true, beq_iff_eq, Bool.and_eq_true, decide_eq_true_eq] at h
      have hn : c.toNat = 32 ∨ c.toNat = 9 ∨ c.toNat = 10 ∨ c.toNat = 11 ∨ c.toNat = 12 ∨
          c.toNat = 13 := by omega
      rcases hn with hn | hn | hn | hn | hn | hn <;> simp [← Char.toNat_inj, hn]
    rcases hc with rfl | rfl | rfl | rfl | rfl | rfl <;> decide
  · simp only [hlt, if_false] at h ⊢
    have hmem : c.toNat ∈ ([0x85, 0xA0, 0x1680, 0x2000, 0x2001, 0x2002, 0x2003, 0x2004, 0x2005,
        0x2006, 0x2007, 0x2008, 0x2009, 0x200A, 0x2028, 0x2029, 0x202F, 0x205F, 0x3000] :
        List Nat) := by
      simp only [Bool.or_eq_true, beq_iff_eq, Bool.and_eq_true, decide_eq_true_eq] at h
      simp only [List.mem_cons, List.not_mem_nil, or_false]
      omega
    have hout := List.all_eq_true.1 not_inRanges_wideBlanks _ hmem
    rw [inRanges, ← Array.any_toList]
    simpa using hout

theorem ne_of_isWordChar {c x : Char} (h : isWordChar c = true) (hx : isWordChar x = false) :
    c ≠ x := by
  rintro rfl
  simp [h] at hx

theorem isBlank_eq_false_of_isWordChar {c : Char} (h : isWordChar c = true) :
    isBlank c = false := by
  cases hc : isBlank c with
  | false => rfl
  | true => simp [isWordChar_eq_false_of_isBlank hc] at h

theorem isInlineBlank_eq_false_of_isWordChar {c : Char} (h : isWordChar c = true) :
    isInlineBlank c = false := by
  cases hc : isInlineBlank c with
  | false => rfl
  | true => exact absurd (isBlank_of_isInlineBlank hc) (by simp [isBlank_eq_false_of_isWordChar h])

/-! ### Scanning line by line -/

/-- What may follow a line: nothing, or a newline. -/
def EndsLine (after : List Char) : Prop :=
  ∀ c ∈ after.head?, c = '\n'

theorem endsLine_nil : EndsLine [] := fun _ h => absurd h (by simp)

theorem endsLine_newline (rest : List Char) : EndsLine ('\n' :: rest) := fun _ h => by
  simpa using h.symm

theorem nextLine_append {u after : List Char} (hu : '\n' ∉ u) (ha : EndsLine after) :
    nextLine (u ++ after) = after.drop 1 := by
  have hdrop : u.dropWhile (· != '\n') = [] :=
    List.dropWhile_eq_nil_iff.2 fun c hc => by
      have hne : c ≠ '\n' := fun h => hu (h ▸ hc)
      simpa using hne
  unfold nextLine
  rw [List.dropWhile_append, hdrop, List.isEmpty_nil, if_pos rfl]
  cases after with
  | nil => rfl
  | cons c rest =>
    obtain rfl : c = '\n' := ha c rfl
    simp

theorem prefix_of_prefix_append {w l after : List Char} (hw : '\n' ∉ w) (ha : EndsLine after)
    (h : w <+: l ++ after) : w <+: l := by
  rcases List.prefix_or_prefix_of_prefix h (List.prefix_append l after) with hwl | ⟨v, rfl⟩
  · exact hwl
  · cases v with
    | nil => simp
    | cons x v =>
      have hv : x :: v <+: after := (List.prefix_append_right_inj l).1 h
      obtain ⟨t, ht⟩ := hv
      have hx : x = '\n' := ha x (by simp [← ht])
      exact absurd (hx ▸ List.mem_append_right l List.mem_cons_self) hw

theorem startsWithKeyword_of_append {kw l after : List Char} (hkw : '\n' ∉ kw)
    (ha : EndsLine after) (h : StartsWithKeyword kw (l ++ after)) : StartsWithKeyword kw l := by
  obtain ⟨lead, c, rest, hlead, hc, heq⟩ := h
  have hw : '\n' ∉ lead ++ kw ++ [c] := by
    intro hm
    simp only [List.mem_append, List.mem_singleton] at hm
    rcases hm with (hm | hm) | hm
    · exact absurd (hlead _ hm) (by decide)
    · exact hkw hm
    · exact absurd (hm ▸ hc) (by decide)
  have hp : lead ++ kw ++ [c] <+: l ++ after := ⟨rest, by rw [heq]; simp⟩
  obtain ⟨z, hz⟩ := prefix_of_prefix_append hw ha hp
  exact ⟨lead, c, z, hlead, hc, by rw [← hz]; simp⟩

section Scan

variable {α : Type} (tryAt : List Char → Option (α × Nat))

/-- A pattern matches nowhere on a line when it does not match at its start, whatever line
follows. -/
def NoMatch (l : List Char) : Prop :=
  ∀ after, EndsLine after → tryAt (l ++ after) = none

theorem matchesAtLineStarts_of_none {cs : List Char} (hcs : cs ≠ []) (h : tryAt cs = none) :
    matchesAtLineStarts tryAt cs = matchesAtLineStarts tryAt (nextLine cs) := by
  obtain ⟨c, cs, rfl⟩ := List.exists_cons_of_ne_nil hcs
  rw [matchesAtLineStarts.eq_2, h]

theorem matchesAtLineStarts_of_some {cs : List Char} {a : α} {n : Nat} (hcs : cs ≠ [])
    (h : tryAt cs = some (a, n)) :
    matchesAtLineStarts tryAt cs = a :: matchesAtLineStarts tryAt (nextLine (cs.drop n)) := by
  obtain ⟨c, cs, rfl⟩ := List.exists_cons_of_ne_nil hcs
  rw [matchesAtLineStarts.eq_2, h]

theorem matchesAtLineStarts_skip {after : List Char} (ha : EndsLine after) :
    ∀ {lines : List (List Char)}, lines ≠ [] → (∀ l ∈ lines, '\n' ∉ l ∧ NoMatch tryAt l) →
      matchesAtLineStarts tryAt (List.intercalate ['\n'] lines ++ after) =
        matchesAtLineStarts tryAt (after.drop 1)
  | [], hne, _ => absurd rfl hne
  | [l], _, hl => by
    obtain ⟨hnl, hnone⟩ := hl l List.mem_cons_self
    rw [List.intercalate_singleton]
    by_cases hempty : l ++ after = []
    · obtain ⟨rfl, rfl⟩ := List.append_eq_nil_iff.1 hempty
      rfl
    · rw [matchesAtLineStarts_of_none tryAt hempty (hnone after ha), nextLine_append hnl ha]
  | l :: l' :: ls, _, hl => by
    obtain ⟨hnl, hnone⟩ := hl l List.mem_cons_self
    have hrest : ∀ x ∈ l' :: ls, '\n' ∉ x ∧ NoMatch tryAt x :=
      fun x hx => hl x (List.mem_cons_of_mem _ hx)
    rw [List.intercalate_cons_cons, List.append_assoc, List.append_assoc, List.singleton_append,
      matchesAtLineStarts_of_none tryAt (by simp) (hnone _ (endsLine_newline _)),
      nextLine_append hnl (endsLine_newline _), List.drop_one, List.tail_cons]
    exact matchesAtLineStarts_skip ha (List.cons_ne_nil _ _) hrest

theorem matchesAtLineStarts_skip_text {u after : List Char} (ha : EndsLine after)
    (hu : ∀ l ∈ u.splitOn '\n', NoMatch tryAt l) :
    matchesAtLineStarts tryAt (u ++ after) = matchesAtLineStarts tryAt (after.drop 1) := by
  have h := matchesAtLineStarts_skip tryAt ha (List.splitOn_ne_nil '\n' u)
    fun l hl => ⟨Path.not_mem_of_mem_splitOn hl, hu l hl⟩
  rwa [List.intercalate_splitOn] at h

theorem matchesAtLineStarts_match {p u after : List Char} {a : α} (hp : p ≠ [])
    (h : tryAt (p ++ (u ++ after)) = some (a, p.length)) (hu : '\n' ∉ u) (ha : EndsLine after) :
    matchesAtLineStarts tryAt (p ++ (u ++ after)) =
      a :: matchesAtLineStarts tryAt (after.drop 1) := by
  rw [matchesAtLineStarts_of_some tryAt (by simp [hp]) h, List.drop_left, nextLine_append hu ha]

theorem matchesAtLineStarts_first_none {t after : List Char} (ha : EndsLine after) (ht : t ≠ [])
    (hfirst : tryAt (t ++ after) = none)
    (htail : ∀ l ∈ (t.splitOn '\n').tail, NoMatch tryAt l) :
    matchesAtLineStarts tryAt (t ++ after) = matchesAtLineStarts tryAt (after.drop 1) := by
  obtain ⟨u, ls, hsplit⟩ := List.exists_cons_of_ne_nil (List.splitOn_ne_nil '\n' t)
  have hlines : ∀ l ∈ u :: ls, '\n' ∉ l := fun l hl => Path.not_mem_of_mem_splitOn (hsplit ▸ hl)
  have ht' : t = List.intercalate ['\n'] (u :: ls) := by rw [← hsplit, List.intercalate_splitOn]
  rw [hsplit, List.tail_cons] at htail
  rw [matchesAtLineStarts_of_none tryAt (by simp [ht]) hfirst, ht']
  -- the first line is left behind; the others are passed over one by one
  cases ls with
  | nil => rw [List.intercalate_singleton, nextLine_append (hlines u List.mem_cons_self) ha]
  | cons l ls =>
    rw [List.intercalate_cons_cons, List.append_assoc, List.append_assoc, List.singleton_append,
      nextLine_append (hlines u List.mem_cons_self) (endsLine_newline _), List.drop_one,
      List.tail_cons]
    exact matchesAtLineStarts_skip tryAt ha (List.cons_ne_nil _ _)
      fun x hx => ⟨hlines x (List.mem_cons_of_mem u hx), htail x hx⟩

end Scan

theorem exists_cons_of_countWhile_pos {p : Char → Bool} {l : List Char}
    (h : 1 ≤ countWhile p l) : ∃ c rest, l = c :: rest ∧ p c = true := by
  cases l with
  | nil => simp [countWhile] at h
  | cons c rest =>
    refine ⟨c, rest, rfl, ?_⟩
    cases hc : p c with
    | true => rfl
    | false => simp [countWhile, hc] at h

theorem startsWithKeyword_of_count {kw cs : List Char}
    (hkw : kw.isPrefixOf (cs.drop (countWhile isInlineBlank cs)) = true)
    (hb : 1 ≤ countWhile isInlineBlank ((cs.drop (countWhile isInlineBlank cs)).drop kw.length)) :
    StartsWithKeyword kw cs := by
  obtain ⟨c, rest, hr, hc⟩ := exists_cons_of_countWhile_pos hb
  obtain ⟨t, ht⟩ := List.isPrefixOf_iff_prefix.1 hkw
  have htr : t = c :: rest := by rw [← hr, ← ht, List.drop_left]
  refine ⟨cs.takeWhile isInlineBlank, c, rest, fun x hx => List.mem_takeWhile_imp hx, hc, ?_⟩
  calc cs = cs.takeWhile isInlineBlank ++ cs.drop (countWhile isInlineBlank cs) :=
        (takeWhile_append_drop_countWhile isInlineBlank cs).symm
    _ = cs.takeWhile isInlineBlank ++ kw ++ c :: rest := by rw [← ht, htr, List.append_assoc]

theorem startsWithKeyword_of_importAt {cs : List Char} (h : (importAt cs).isSome) :
    StartsWithKeyword "import".toList cs := by
  unfold importAt at h
  dsimp only at h
  split at h
  · rename_i hkw
    apply startsWithKeyword_of_count hkw
    show 1 ≤ countWhile isInlineBlank ((cs.drop (countWhile isInlineBlank cs)).drop 6)
    split at h
    · rename_i hg
      simp only [Bool.and_eq_true, decide_eq_true_eq] at hg
      exact hg.1
    · split at h
      · omega
      · simp at h
  · simp at h

theorem startsWithKeyword_of_fromAt {cs : List Char} (h : (fromAt cs).isSome) :
    StartsWithKeyword "from".toList cs := by
  unfold fromAt at h
  dsimp only at h
  split at h
  · rename_i hkw
    apply startsWithKeyword_of_count hkw
    show 1 ≤ countWhile isInlineBlank ((cs.drop (countWhile isInlineBlank cs)).drop 4)
    split at h
    · rename_i hcond
      simp only [Bool.and_eq_true, decide_eq_true_eq] at hcond
      exact hcond.1.1.1
    · simp at h
  · simp at h

theorem noMatch_importAt {l : List Char} (h : ¬ StartsWithKeyword "import".toList l) :
    NoMatch importAt l := by
  intro after ha
  cases hm : importAt (l ++ after) with
  | none => rfl
  | some p =>
    exact absurd (startsWithKeyword_of_append (by decide) ha
      (startsWithKeyword_of_importAt (by simp [hm]))) h

theorem noMatch_fromAt {l : List Char} (h : ¬ StartsWithKeyword "from".toList l) :
    NoMatch fromAt l := by
  intro after ha
  cases hm : fromAt (l ++ after) with
  | none => rfl
  | some p =>
    exact absurd (startsWithKeyword_of_append (by decide) ha
      (startsWithKeyword_of_fromAt (by simp [hm]))) h

theorem import_toList : "import".toList = ['i', 'm', 'p', 'o', 'r', 't'] := by simp

theorem from_toList : "from".toList = ['f', 'r', 'o', 'm'] := by simp

theorem isPrefixOf_self_append (l z : List Char) : l.isPrefixOf (l ++ z) = true :=
  List.isPrefixOf_iff_prefix.2 (List.prefix_append l z)

theorem head_append_of_ne_nil {P : Char → Prop} {w : List Char} (hw : w ≠ [])
    (h : ∀ c ∈ w.head?, P c) (z : List Char) : ∀ c ∈ (w ++ z).head?, P c := by
  rwa [List.head?_append_of_ne_nil _ hw]

theorem import_head (z : List Char) :
    ∀ c ∈ ("import".toList ++ z).head?, isInlineBlank c = false :=
  head_append_of_ne_nil (by simp) (by simp [import_toList, isInlineBlank]) z

theorem from_head (z : List Char) : ∀ c ∈ ("from".toList ++ z).head?, isInlineBlank c = false :=
  head_append_of_ne_nil (by simp) (by simp [from_toList, isInlineBlank]) z

/-- Whether a keyword follows the leading spaces and tabs of a line. -/
def beginsKeyword (l : List Char) : Bool :=
  "import".toList.isPrefixOf (l.dropWhile isInlineBlank) ||
    "from".toList.isPrefixOf (l.dropWhile isInlineBlank)

theorem dropWhile_keyword {kw lead z : List Char}
    (hkw : ∀ x ∈ (kw ++ z).head?, isInlineBlank x = false) (hlead : InlineBlanks lead) :
    (lead ++ kw ++ z).dropWhile isInlineBlank = kw ++ z := by
  rw [List.append_assoc, List.dropWhile_append_of_pos hlead]
  cases h : kw ++ z with
  | nil => rfl
  | cons x w =>
    rw [h] at hkw
    exact List.dropWhile_cons_of_neg (by simpa using hkw x rfl)

theorem not_startsImport {l : List Char} (h : beginsKeyword l = false) : ¬ StartsImport l := by
  unfold beginsKeyword at h
  rintro (⟨lead, c, rest, hlead, -, rfl⟩ | ⟨lead, c, rest, hlead, -, rfl⟩)
  · rw [dropWhile_keyword (import_head _) hlead, isPrefixOf_self_append] at h
    simp at h
  · rw [dropWhile_keyword (from_head _) hlead, isPrefixOf_self_append] at h
    simp at h

theorem tail_not_startsImport {t : List Char}
    (h : ((t.splitOn '\n').tail.all fun l => !beginsKeyword l) = true) :
    ∀ l ∈ (t.splitOn '\n').tail, ¬ StartsImport l :=
  fun l hl => not_startsImport (by simpa using List.all_eq_true.1 h l hl)

/-! ### Reading items back -/

theorem takeWhile_append_of_head {p : Char → Bool} {a z : List Char} (ha : ∀ c ∈ a, p c = true)
    (hz : ∀ c ∈ z.head?, p c = false) : (a ++ z).takeWhile p = a := by
  rw [List.takeWhile_append_of_pos ha]
  cases z with
  | nil => simp
  | cons c z =>
    have hc : p c = false := hz c rfl
    rw [List.takeWhile_cons_of_neg (by simp [hc]), List.append_nil]

theorem countWhile_append_of_head {p : Char → Bool} {a z : List Char} (ha : ∀ c ∈ a, p c = true)
    (hz : ∀ c ∈ z.head?, p c = false) : countWhile p (a ++ z) = a.length := by
  rw [countWhile, takeWhile_append_of_head ha hz]

theorem splitOn_of_not_mem {a : Char} {x : List Char} (h : a ∉ x) : x.splitOn a = [x] := by
  rw [List.splitOn_eq_splitOnP]
  exact List.splitOnP_eq_singleton fun c hc => beq_eq_false_iff_ne.2 fun he => h (he ▸ hc)

theorem splitOn_append_cons {a : Char} {x y : List Char} (h : a ∉ x) :
    (x ++ a :: y).splitOn a = x :: y.splitOn a := by
  rw [List.splitOn_eq_splitOnP, List.splitOnP_append_cons x y (by simp), ← List.splitOn_eq_splitOnP,
    splitOn_of_not_mem h, ← List.splitOn_eq_splitOnP, List.singleton_append]

theorem blanks_nil : Blanks [] := fun _ h => absurd h List.not_mem_nil

theorem not_mem_of_blanks {c : Char} {g : List Char} (hg : Blanks g) (hc : isBlank c = false) :
    c ∉ g :=
  fun hm => by simp [hg c hm] at hc

theorem LineBlanks.blanks {b : List Char} (h : LineBlanks b) : Blanks b :=
  fun c hc => (h c hc).1

theorem trim_blanks {g : List Char} (hg : Blanks g) : trim g = [] := by
  unfold trim trimStart
  rw [List.dropWhile_eq_nil_iff.2 hg]
  rfl

theorem dropWhile_reverse_of_getLast {p : Char → Bool} {t : List Char}
    (h : ∀ c ∈ t.getLast?, p c = false) : t.reverse.dropWhile p = t.reverse := by
  induction t using List.reverseRecOn with
  | nil => rfl
  | append_singleton t y _ =>
    rw [List.reverse_concat, List.dropWhile_cons_of_neg (by simp [h y List.getLast?_concat])]

theorem trimEnd_append_blanks {t post : List Char} (hpost : Blanks post)
    (ht : ∀ c ∈ t.getLast?, isBlank c = false) : trimEnd (t ++ post) = t := by
  unfold trimEnd
  rw [List.reverse_append, List.dropWhile_append_of_pos fun c hc => hpost c (List.mem_reverse.1 hc),
    dropWhile_reverse_of_getLast ht, List.reverse_reverse]

/-- An item as it stands between commas: nonempty, without a comma, and with no blank at either
end and no backslash at its end, which trimming would take off. -/
def ItemText (t : List Char) : Prop :=
  t ≠ [] ∧ ',' ∉ t ∧ (∀ c ∈ t.head?, isBlank c = false) ∧
    ∀ c ∈ t.getLast?, isBlank c = false ∧ c ≠ '\\'

theorem trim_blanks_around {pre t post : List Char} (hpre : Blanks pre) (hpost : Blanks post)
    (ht : ItemText t) : trim (pre ++ t ++ post) = t := by
  obtain ⟨hne, -, hhead, hlast⟩ := ht
  obtain ⟨x, t', rfl⟩ := List.exists_cons_of_ne_nil hne
  unfold trim
  rw [List.append_assoc, List.cons_append, trimStart_blanks_append hpre (hhead x rfl),
    ← List.cons_append, trimEnd_append_blanks hpost fun c hc => (hlast c hc).1]

theorem dropTrailing_of_getLast {x : Char} {t : List Char} (h : ∀ c ∈ t.getLast?, c ≠ x) :
    dropTrailing x t = t := by
  unfold dropTrailing
  rw [dropWhile_reverse_of_getLast fun c hc => by simpa using h c hc, List.reverse_reverse]

theorem trim_importPiece {pre t post : List Char} (hpre : Blanks pre) (hpost : Blanks post)
    (ht : ItemText t) : trim (dropTrailing '\\' (trim (pre ++ t ++ post))) = t := by
  rw [trim_blanks_around hpre hpost ht, dropTrailing_of_getLast fun c hc => (ht.2.2.2 c hc).2]
  simpa using trim_blanks_around blanks_nil blanks_nil ht

theorem importItems_append_comma {x y : List Char} (hx : ',' ∉ x) :
    importItems (x ++ ',' :: y) =
      ([trim (dropTrailing '\\' (trim x))].filter fun it => !it.isEmpty) ++ importItems y := by
  unfold importItems
  rw [splitOn_append_cons hx, List.map_cons, List.filter_cons]
  split <;> simp_all

theorem importItems_of_not_mem {x : List Char} (hx : ',' ∉ x) :
    importItems x = [trim (dropTrailing '\\' (trim x))].filter fun it => !it.isEmpty := by
  unfold importItems
  rw [splitOn_of_not_mem hx]
  rfl

theorem importItems_blanks {g : List Char} (hg : Blanks g) : importItems g = [] := by
  rw [importItems_of_not_mem (not_mem_of_blanks hg (by decide)), trim_blanks hg]
  rfl

/-- What may close an item list: blanks, perhaps with one comma among them. -/
def ListEnd (post : List Char) : Prop :=
  Blanks post ∨ ∃ g g', Blanks g ∧ Blanks g' ∧ post = g ++ ',' :: g'

section Items

variable {Item : List Char → List Char → Prop} {G : List Char → Prop}

theorem importItems_items (hG : ∀ g, G g → Blanks g) (hItem : ∀ t n, Item t n → ItemText t)
    {items : List Char} {ns : List (List Char)} (h : Items Item G items ns) :
    ∀ {pre post : List Char}, Blanks pre → ListEnd post →
      List.Forall₂ Item (importItems (pre ++ items ++ post)) ns := by
  induction h with
  | @one t n hi =>
    intro pre post hpre hpost
    have ht := hItem t n hi
    have hcomma : ',' ∉ pre ++ t := by
      simp only [List.mem_append, not_or]
      exact ⟨not_mem_of_blanks hpre (by decide), ht.2.1⟩
    rcases hpost with hpost | ⟨g, g', hg, hg', rfl⟩
    · have hx : ',' ∉ pre ++ t ++ post := by
        simp only [List.mem_append, not_or] at hcomma ⊢
        exact ⟨hcomma, not_mem_of_blanks hpost (by decide)⟩
      rw [importItems_of_not_mem hx, trim_importPiece hpre hpost ht]
      simpa [ht.1] using hi
    · -- the comma closing the list leaves a last piece of blanks, which is skipped
      have hx : ',' ∉ pre ++ t ++ g := by
        simp only [List.mem_append, not_or] at hcomma ⊢
        exact ⟨hcomma, not_mem_of_blanks hg (by decide)⟩
      rw [← List.append_assoc, importItems_append_comma hx, trim_importPiece hpre hg ht,
        importItems_blanks hg']
      simpa [ht.1] using hi
  | @cons t n g₁ g₂ rest ns hi hg₁ hg₂ _ ih =>
    intro pre post hpre hpost
    have ht := hItem t n hi
    have hx : ',' ∉ pre ++ t ++ g₁ := by
      simp only [List.mem_append, not_or]
      exact ⟨⟨not_mem_of_blanks hpre (by decide), ht.2.1⟩,
        not_mem_of_blanks (hG g₁ hg₁) (by decide)⟩
    have hsplit : pre ++ (t ++ g₁ ++ ',' :: g₂ ++ rest) ++ post =
        (pre ++ t ++ g₁) ++ ',' :: (g₂ ++ rest ++ post) := by simp
    rw [hsplit, importItems_append_comma hx, trim_importPiece hpre (hG g₁ hg₁) ht]
    simpa [ht.1] using And.intro hi (ih (hG g₂ hg₂) hpost)

theorem Items.forall_mem {Q : Char → Prop} (hq : Q ',') (hItem : ∀ t n, Item t n → ∀ c ∈ t, Q c)
    (hG : ∀ g, G g → ∀ c ∈ g, Q c) {items : List Char} {ns : List (List Char)}
    (h : Items Item G items ns) : ∀ c ∈ items, Q c := by
  induction h with
  | @one t n hi => exact hItem t n hi
  | @cons t n g₁ g₂ rest ns hi hg₁ hg₂ _ ih =>
    intro c hc
    simp only [List.append_assoc, List.mem_append, List.mem_cons] at hc
    rcases hc with hc | hc | (rfl | hc) | hc
    · exact hItem t n hi c hc
    · exact hG g₁ hg₁ c hc
    · exact hq
    · exact hG g₂ hg₂ c hc
    · exact ih c hc

theorem Items.forall_name {P : List Char → Prop} (hItem : ∀ t n, Item t n → P n)
    {items : List Char} {ns : List (List Char)} (h : Items Item G items ns) : ∀ n ∈ ns, P n := by
  induction h with
  | @one t n hi => simpa using hItem t n hi
  | @cons t n g₁ g₂ rest ns hi _ _ _ ih =>
    intro m hm
    rcases List.mem_cons.1 hm with rfl | hm
    · exact hItem t m hi
    · exact ih m hm

theorem Items.ne_nil {items : List Char} {ns : List (List Char)}
    (hItem : ∀ t n, Item t n → t ≠ []) (h : Items Item G items ns) : items ≠ [] := by
  cases h with
  | one hi => exact hItem _ _ hi
  | cons hi _ _ _ => simp [hItem _ _ hi]

theorem Items.head? {items : List Char} {ns : List (List Char)} {P : Char → Prop}
    (hItem : ∀ t n, Item t n → t ≠ [] ∧ ∀ c ∈ t.head?, P c) (h : Items Item G items ns) :
    ∀ c ∈ items.head?, P c := by
  cases h with
  | one hi => exact (hItem _ _ hi).2
  | cons hi _ _ _ =>
    obtain ⟨hne, hhead⟩ := hItem _ _ hi
    obtain ⟨c, t', rfl⟩ := List.exists_cons_of_ne_nil hne
    simpa using hhead

end Items

/-! ### Names and words -/

theorem IsName.not_blank {x : List Char} (h : IsName x) : ∀ c ∈ x, isBlank c = false :=
  fun c hc => isBlank_eq_false_of_isWordChar (h.2 c hc)

theorem IsName.head {x : List Char} (h : IsName x) (z : List Char) :
    ∀ c ∈ (x ++ z).head?, isWordChar c = true :=
  head_append_of_ne_nil h.1 (fun c hc => h.2 c (List.mem_of_mem_head? hc)) z

theorem IsName.getLast {y : List Char} (h : IsName y) (z : List Char) :
    ∀ c ∈ (z ++ y).getLast?, isWordChar c = true := by
  intro c hc
  rw [List.getLast?_append_of_ne_nil z h.1] at hc
  exact h.2 c (List.mem_of_getLast? hc)

theorem words_of_not_blank {x : List Char} (hne : x ≠ []) (hx : ∀ c ∈ x, isBlank c = false) :
    words x = [x] := by
  unfold words
  rw [List.splitOnP_eq_singleton hx]
  simp [hne]

theorem words_blanks_append {b : List Char} (hb : Blanks b) (z : List Char) :
    words (b ++ z) = words z := by
  induction b with
  | nil => rfl
  | cons c b ih =>
    have hc : isBlank c = true := hb c List.mem_cons_self
    rw [List.cons_append, ← List.nil_append (c :: _), words_append_blank hc,
      ih fun d hd => hb d (List.mem_cons_of_mem c hd)]
    rfl

theorem words_gap {b : List Char} (hb : Blanks b) (hne : b ≠ []) (x z : List Char) :
    words (x ++ (b ++ z)) = words x ++ words z := by
  obtain ⟨c, b', rfl⟩ := List.exists_cons_of_ne_nil hne
  rw [List.cons_append, words_append_blank (hb c List.mem_cons_self),
    words_blanks_append fun d hd => hb d (List.mem_cons_of_mem c hd)]

theorem as_toList : "as".toList = ['a', 's'] := by simp

theorem isWordChar_of_mem_as {c : Char} (h : c ∈ "as".toList) : isWordChar c = true := by
  rw [as_toList, List.mem_cons, List.mem_singleton] at h
  rcases h with rfl | rfl <;> decide

theorem words_as : words "as".toList = ["as".toList] := by
  rw [as_toList]
  decide

theorem words_alias {x y b₁ b₂ : List Char} (hx : x ≠ []) (hxb : ∀ c ∈ x, isBlank c = false)
    (hb₁ : Blanks b₁) (hb₁' : b₁ ≠ []) (hb₂ : Blanks b₂) (hb₂' : b₂ ≠ []) (hy : IsName y) :
    words (x ++ b₁ ++ "as".toList ++ b₂ ++ y) = [x, "as".toList, y] := by
  simp only [List.append_assoc]
  rw [words_gap hb₁ hb₁', words_gap hb₂ hb₂', words_of_not_blank hx hxb,
    words_as, words_of_not_blank hy.1 hy.not_blank]
  rfl

theorem boundName_of_words_single {item w : List Char} (h : words item = [w]) (r : Bool) :
    boundName item r = if r then w.takeWhile (· != '.') else w := by
  unfold boundName
  rw [h]

theorem boundName_of_words_alias {item x y : List Char} (h : words item = [x, "as".toList, y])
    (r : Bool) : boundName item r = y := by
  unfold boundName
  rw [h]
  rfl

/-! ### Dotted modules -/

theorem mem_dotted {x : List Char} {parts : List (List Char)} (hx : IsName x)
    (hparts : ∀ p ∈ parts, IsName p) :
    ∀ c ∈ List.intercalate ['.'] (x :: parts), isWordChar c = true ∨ c = '.' := by
  induction parts generalizing x with
  | nil =>
    rw [List.intercalate_singleton]
    exact fun c hc => .inl (hx.2 c hc)
  | cons p ps ih =>
    intro c hc
    rw [List.intercalate_cons_cons, List.mem_append, List.mem_append, List.mem_singleton] at hc
    rcases hc with (hc | rfl) | hc
    · exact .inl (hx.2 c hc)
    · exact .inr rfl
    · exact ih (hparts p List.mem_cons_self) (fun q hq => hparts q (List.mem_cons_of_mem p hq)) c hc

theorem dotted_eq_append (x : List Char) (parts : List (List Char)) :
    ∃ z, List.intercalate ['.'] (x :: parts) = x ++ z ∧ ∀ c ∈ z.head?, c = '.' := by
  cases parts with
  | nil => exact ⟨[], by simp, fun _ h => absurd h (by simp)⟩
  | cons p ps =>
    exact ⟨'.' :: List.intercalate ['.'] (p :: ps), by simp [List.intercalate_cons_cons],
      fun c hc => by simpa using hc.symm⟩

theorem dotted_getLast {x : List Char} {parts : List (List Char)} (hx : IsName x)
    (hparts : ∀ p ∈ parts, IsName p) :
    ∀ c ∈ (List.intercalate ['.'] (x :: parts)).getLast?, isWordChar c = true := by
  induction parts generalizing x with
  | nil => simpa using hx.getLast []
  | cons p ps ih =>
    have hp := hparts p List.mem_cons_self
    rw [List.intercalate_cons_cons, List.getLast?_append_of_ne_nil _ (by
      obtain ⟨z, hz, -⟩ := dotted_eq_append p ps
      simp [hz, hp.1])]
    exact ih hp fun q hq => hparts q (List.mem_cons_of_mem p hq)

theorem dotted_ne_nil {x : List Char} {parts : List (List Char)} (hx : IsName x) :
    List.intercalate ['.'] (x :: parts) ≠ [] := by
  obtain ⟨z, hz, -⟩ := dotted_eq_append x parts
  simp [hz, hx.1]

theorem dotted_head {x : List Char} {parts : List (List Char)} (hx : IsName x) (z : List Char) :
    ∀ c ∈ (List.intercalate ['.'] (x :: parts) ++ z).head?, isWordChar c = true := by
  obtain ⟨w, hw, -⟩ := dotted_eq_append x parts
  rw [hw, List.append_assoc]
  exact hx.head _

theorem dotted_not_blank {x : List Char} {parts : List (List Char)} (hx : IsName x)
    (hparts : ∀ p ∈ parts, IsName p) :
    ∀ c ∈ List.intercalate ['.'] (x :: parts), isBlank c = false := by
  intro c hc
  rcases mem_dotted hx hparts c hc with h | rfl
  · exact isBlank_eq_false_of_isWordChar h
  · decide

theorem takeWhile_dotted {x : List Char} {parts : List (List Char)} (hx : IsName x) :
    (List.intercalate ['.'] (x :: parts)).takeWhile (· != '.') = x := by
  obtain ⟨z, hz, hhead⟩ := dotted_eq_append x parts
  have hx' : ∀ c ∈ x, (c != '.') = true := fun c hc => by
    simpa using ne_of_isWordChar (hx.2 c hc) (by decide : isWordChar '.' = false)
  rw [hz, takeWhile_append_of_head hx' fun c hc => by simp [hhead c hc]]

/-! ### The items of each statement -/

theorem itemText_of_words {t : List Char} (hne : t ≠ []) (hcomma : ',' ∉ t)
    (hhead : ∀ c ∈ t.head?, isWordChar c = true) (hlast : ∀ c ∈ t.getLast?, isWordChar c = true) :
    ItemText t :=
  ⟨hne, hcomma, fun c hc => isBlank_eq_false_of_isWordChar (hhead c hc),
    fun c hc => ⟨isBlank_eq_false_of_isWordChar (hlast c hc),
      ne_of_isWordChar (hlast c hc) (by decide)⟩⟩

theorem PlainItem.isName {t n : List Char} (h : PlainItem t n) : IsName n := by
  cases h with
  | module hx _ => exact hx
  | aliased _ _ _ _ _ _ hy => exact hy

theorem PlainItem.mem {t n : List Char} (h : PlainItem t n) :
    ∀ c ∈ t, isWordChar c = true ∨ c = '.' ∨ (isBlank c = true ∧ c ≠ '\n') := by
  cases h with
  | module hx hparts =>
    intro c hc
    rcases mem_dotted hx hparts c hc with h | h
    · exact .inl h
    · exact .inr (.inl h)
  | aliased hx hparts hb₁ _ hb₂ _ hy =>
    intro c hc
    simp only [List.mem_append] at hc
    rcases hc with (((hc | hc) | hc) | hc) | hc
    · rcases mem_dotted hx hparts c hc with h | h
      · exact .inl h
      · exact .inr (.inl h)
    · exact .inr (.inr (hb₁ c hc))
    · exact .inl (isWordChar_of_mem_as hc)
    · exact .inr (.inr (hb₂ c hc))
    · exact .inl (hy.2 c hc)

theorem PlainItem.itemText {t n : List Char} (h : PlainItem t n) : ItemText t := by
  have hcomma : ',' ∉ t := fun hc => by
    rcases h.mem ',' hc with h | h | h
    · exact absurd h (by decide)
    · exact absurd h (by decide)
    · exact absurd h.1 (by decide)
  cases h with
  | module hx hparts =>
    exact itemText_of_words (dotted_ne_nil hx) hcomma (by simpa using dotted_head hx [])
      (dotted_getLast hx hparts)
  | aliased hx _ _ _ _ _ hy =>
    refine itemText_of_words (by simp) hcomma ?_ (hy.getLast _)
    simp only [List.append_assoc]
    exact dotted_head hx _

theorem PlainItem.boundName {t n : List Char} (h : PlainItem t n) : boundName t true = n := by
  cases h with
  | module hx hparts =>
    rw [boundName_of_words_single (words_of_not_blank (dotted_ne_nil hx)
      (dotted_not_blank hx hparts)), if_pos rfl, takeWhile_dotted hx]
  | aliased hx hparts hb₁ hb₁' hb₂ hb₂' hy =>
    exact boundName_of_words_alias (words_alias (dotted_ne_nil hx) (dotted_not_blank hx hparts)
      hb₁.blanks hb₁' hb₂.blanks hb₂' hy) true

section FromItems

variable {G : List Char → Prop}

theorem FromItem.isName {t n : List Char} (h : FromItem G t n) : IsName n := by
  cases h with
  | name hx => exact hx
  | aliased _ _ _ _ _ hy => exact hy

theorem FromItem.mem {B : Char → Prop} (hG : ∀ g, G g → ∀ c ∈ g, B c) {t n : List Char}
    (h : FromItem G t n) : ∀ c ∈ t, isWordChar c = true ∨ B c := by
  cases h with
  | name hx => exact fun c hc => .inl (hx.2 c hc)
  | aliased hx hb₁ _ hb₂ _ hy =>
    intro c hc
    simp only [List.mem_append] at hc
    rcases hc with (((hc | hc) | hc) | hc) | hc
    · exact .inl (hx.2 c hc)
    · exact .inr (hG _ hb₁ c hc)
    · exact .inl (isWordChar_of_mem_as hc)
    · exact .inr (hG _ hb₂ c hc)
    · exact .inl (hy.2 c hc)

theorem FromItem.itemText (hG : ∀ g, G g → Blanks g) {t n : List Char} (h : FromItem G t n) :
    ItemText t := by
  have hcomma : ',' ∉ t := fun hc => by
    rcases h.mem hG ',' hc with h | h
    · exact absurd h (by decide)
    · exact absurd h (by decide)
  cases h with
  | name hx =>
    exact itemText_of_words hx.1 hcomma (by simpa using hx.head []) (by simpa using hx.getLast [])
  | aliased hx _ _ _ _ hy =>
    refine itemText_of_words (by simp) hcomma ?_ (hy.getLast _)
    simp only [List.append_assoc]
    exact hx.head _

theorem FromItem.boundName (hG : ∀ g, G g → Blanks g) {t n : List Char} (h : FromItem G t n) :
    boundName t false = n := by
  cases h with
  | name hx =>
    rw [boundName_of_words_single (words_of_not_blank hx.1 hx.not_blank), if_neg (by simp)]
  | aliased hx hb₁ hb₁' hb₂ hb₂' hy =>
    exact boundName_of_words_alias (words_alias hx.1 hx.not_blank (hG _ hb₁) hb₁' (hG _ hb₂) hb₂'
      hy) false

end FromItems

/-! ### The patterns on a statement -/

theorem countWhile_line {line z : List Char} (hline : ∀ c ∈ line, c ≠ '#' ∧ c ≠ '\n')
    (hz : ∀ c ∈ z.head?, c = '#' ∨ c = '\n') :
    countWhile (fun c => c != '#' && c != '\n') (line ++ z) = line.length :=
  countWhile_append_of_head (fun c hc => by simp [hline c hc]) fun c hc => by
    rcases hz c hc with rfl | rfl <;> rfl

theorem importAt_line {h line z : List Char} (hh : ImportHead h) (hne : line ≠ [])
    (hhead : ∀ c ∈ line.head?, isInlineBlank c = false) (hline : ∀ c ∈ line, c ≠ '#' ∧ c ≠ '\n')
    (hz : ∀ c ∈ z.head?, c = '#' ∨ c = '\n') :
    importAt (h ++ line ++ z) = some (line, (h ++ line).length) := by
  obtain ⟨lead, b, hlead, hb, hb', rfl⟩ := hh
  have hrest := head_append_of_ne_nil hne hhead z
  have hpos : 1 ≤ b.length ∧ 1 ≤ line.length :=
    ⟨List.length_pos_iff.2 hb', List.length_pos_iff.2 hne⟩
  unfold importAt
  dsimp only
  simp only [List.append_assoc]
  rw [countWhile_append_of_head hlead (import_head _), List.drop_left,
    if_pos (isPrefixOf_self_append _ _), List.drop_left' (by simp),
    countWhile_append_of_head hb hrest, List.drop_left, countWhile_line hline hz,
    List.take_left' rfl]
  simp [hpos.1, hpos.2]
  omega

theorem fromAt_of_head {h rest : List Char} (hh : FromHead h)
    (hrest : ∀ c ∈ rest.head?, isInlineBlank c = false) :
    ∃ lone, fromAt (h ++ rest) =
      let inner := (rest.drop 1).takeWhile (· != ')')
      let g := countWhile (fun c => c != '#' && c != '\n') rest
      if rest.head? = some '(' && (rest.drop (1 + inner.length)).head? = some ')' then
        some (inner, h.length + inner.length + 2)
      else if g ≥ 1 then some (rest.take g, h.length + g)
      else lone := by
  obtain ⟨lead, b₁, m, b₂, b₃, hlead, hb₁, hb₁', hm, hb₂, hb₂', hb₃, hb₃', rfl⟩ := hh
  -- each run of the head stops where the next part begins
  have hmhead : ∀ z, ∀ c ∈ (m ++ z).head?, isInlineBlank c = false :=
    head_append_of_ne_nil hm.1 fun c hc => by
      rcases hm.2 c (List.mem_of_mem_head? hc) with h | rfl
      · exact isInlineBlank_eq_false_of_isWordChar h
      · rfl
  have hm' : ∀ c ∈ m, (isWordChar c || c == '.') = true := fun c hc => by
    rcases hm.2 c hc with h | rfl <;> simp [*]
  have hb₂head : ∀ z, ∀ c ∈ (b₂ ++ z).head?, (isWordChar c || c == '.') = false :=
    head_append_of_ne_nil hb₂' fun c hc => by
      have hc' := hb₂ c (List.mem_of_mem_head? hc)
      have hne : c ≠ '.' := by rintro rfl; exact absurd hc' (by decide)
      simp [isWordChar_eq_false_of_isBlank (isBlank_of_isInlineBlank hc'), hne]
  have hpos : 1 ≤ b₁.length ∧ 1 ≤ m.length ∧ 1 ≤ b₂.length ∧ b₃.length ≠ 0 :=
    ⟨List.length_pos_iff.2 hb₁', List.length_pos_iff.2 hm.1, List.length_pos_iff.2 hb₂',
      by simpa using hb₃'⟩
  have hlen : (lead ++ ("from".toList ++ (b₁ ++ (m ++ (b₂ ++ ("import".toList ++ b₃)))))).length =
      lead.length + 4 + b₁.length + m.length + b₂.length + 6 + b₃.length := by
    simp only [List.length_append, from_toList, import_toList, List.length_cons, List.length_nil]
    omega
  unfold fromAt
  dsimp only
  simp only [List.append_assoc]
  rw [countWhile_append_of_head hlead (from_head _), List.drop_left,
    if_pos (isPrefixOf_self_append _ _), List.drop_left' (by simp),
    countWhile_append_of_head hb₁ (hmhead _), List.drop_left,
    countWhile_append_of_head hm' (hb₂head _), List.drop_left,
    countWhile_append_of_head hb₂ (import_head _), List.drop_left, isPrefixOf_self_append,
    if_pos (by simp [hpos.1, hpos.2.1, hpos.2.2.1]), List.drop_left' (by simp),
    countWhile_append_of_head hb₃ hrest, List.drop_left, if_neg hpos.2.2.2, hlen]
  exact ⟨_, rfl⟩

theorem fromAt_line {h line z : List Char} (hh : FromHead h) (hne : line ≠ [])
    (hhead : ∀ c ∈ line.head?, isInlineBlank c = false ∧ c ≠ '(')
    (hline : ∀ c ∈ line, c ≠ '#' ∧ c ≠ '\n') (hz : ∀ c ∈ z.head?, c = '#' ∨ c = '\n') :
    fromAt (h ++ line ++ z) = some (line, (h ++ line).length) := by
  have hrest := head_append_of_ne_nil hne hhead z
  obtain ⟨lone, hfrom⟩ := fromAt_of_head hh fun c hc => (hrest c hc).1
  have hopen : (line ++ z).head? ≠ some '(' := fun ho => (hrest '(' ho).2 rfl
  have hpos : 1 ≤ line.length := List.length_pos_iff.2 hne
  rw [List.append_assoc, hfrom]
  dsimp only
  rw [if_neg fun hc => hopen (of_decide_eq_true (Bool.and_eq_true _ _ ▸ hc).1),
    countWhile_line hline hz, if_pos hpos, List.take_left' rfl,
    List.length_append]

theorem fromAt_bracket {h inner z : List Char} (hh : FromHead h) (hinner : ')' ∉ inner) :
    fromAt (h ++ '(' :: inner ++ [')'] ++ z) =
      some (inner, (h ++ '(' :: inner ++ [')']).length) := by
  have hrest : ∀ c ∈ ('(' :: inner ++ ')' :: z).head?, isInlineBlank c = false := by
    intro c hc
    simp only [List.cons_append, List.head?_cons, Option.mem_def, Option.some.injEq] at hc
    exact hc ▸ rfl
  obtain ⟨lone, hfrom⟩ := fromAt_of_head hh hrest
  have htake : (('(' :: inner ++ ')' :: z).drop 1).takeWhile (· != ')') = inner := by
    rw [List.cons_append, List.drop_one, List.tail_cons]
    exact takeWhile_append_of_head (fun c hc => bne_iff_ne.2 fun he => hinner (he ▸ hc))
      (by simp)
  have hclose : ('(' :: inner ++ ')' :: z).drop (1 + inner.length) = ')' :: z :=
    List.drop_left' (by simp [Nat.add_comm])
  rw [show h ++ '(' :: inner ++ [')'] ++ z = h ++ ('(' :: inner ++ ')' :: z) by simp, hfrom]
  dsimp only
  rw [htake, hclose, if_pos (by simp)]
  simp only [List.length_append, List.length_cons, List.length_nil, Option.some.injEq,
    Prod.mk.injEq, true_and]
  omega

theorem head_eq_of_inlineBlanks {lead lead' x x' : List Char} {a a' : Char}
    (hlead : InlineBlanks lead) (hlead' : InlineBlanks lead') (ha : isInlineBlank a = false)
    (ha' : isInlineBlank a' = false) (h : lead ++ a :: x = lead' ++ a' :: x') : a = a' := by
  have h₁ : (lead ++ a :: x).takeWhile isInlineBlank = lead :=
    takeWhile_append_of_head hlead (by simpa using ha)
  have h₂ : (lead' ++ a' :: x').takeWhile isInlineBlank = lead' :=
    takeWhile_append_of_head hlead' (by simpa using ha')
  rw [h, h₂] at h₁
  subst h₁
  exact (List.cons.inj (List.append_cancel_left h)).1

theorem importAt_of_fromHead {h z : List Char} (hh : FromHead h) : importAt (h ++ z) = none := by
  cases hm : importAt (h ++ z) with
  | none => rfl
  | some p =>
    have hs : (importAt (h ++ z)).isSome := by simp [hm]
    obtain ⟨lead', c, rest, hlead', -, heq⟩ := startsWithKeyword_of_importAt hs
    obtain ⟨lead, b₁, m, b₂, b₃, hlead, -, -, -, -, -, -, -, rfl⟩ := hh
    rw [from_toList, import_toList] at heq
    simp only [List.append_assoc, List.cons_append, List.nil_append] at heq
    exact absurd (head_eq_of_inlineBlanks hlead hlead' (by decide) (by decide) heq) (by decide)

theorem fromAt_of_importHead {h z : List Char} (hh : ImportHead h) : fromAt (h ++ z) = none := by
  cases hm : fromAt (h ++ z) with
  | none => rfl
  | some p =>
    have hs : (fromAt (h ++ z)).isSome := by simp [hm]
    obtain ⟨lead', c, rest, hlead', -, heq⟩ := startsWithKeyword_of_fromAt hs
    obtain ⟨lead, b, hlead, -, -, rfl⟩ := hh
    rw [from_toList, import_toList] at heq
    simp only [List.append_assoc, List.cons_append, List.nil_append] at heq
    exact absurd (head_eq_of_inlineBlanks hlead hlead' (by decide) (by decide) heq) (by decide)

theorem ImportHead.ne_nil {h : List Char} (hh : ImportHead h) : h ≠ [] := by
  obtain ⟨lead, b, -, -, -, rfl⟩ := hh
  simp [import_toList]

theorem FromHead.ne_nil {h : List Char} (hh : FromHead h) : h ≠ [] := by
  obtain ⟨lead, b₁, m, b₂, b₃, -, -, -, -, -, -, -, -, rfl⟩ := hh
  simp [from_toList]

/-! ### The captures of each statement -/

theorem ne_hash_newline {c : Char}
    (h : isWordChar c = true ∨ c = '.' ∨ (isBlank c = true ∧ c ≠ '\n')) : c ≠ '#' ∧ c ≠ '\n' := by
  rcases h with h | rfl | ⟨hb, hn⟩
  · exact ⟨ne_of_isWordChar h (by decide), ne_of_isWordChar h (by decide)⟩
  · decide
  · exact ⟨by rintro rfl; exact absurd hb (by decide), hn⟩

theorem PlainItem.head {t n : List Char} (h : PlainItem t n) :
    t ≠ [] ∧ ∀ c ∈ t.head?, isWordChar c = true := by
  cases h with
  | module hx _ => exact ⟨dotted_ne_nil hx, by simpa using dotted_head hx []⟩
  | aliased hx _ _ _ _ _ _ =>
    refine ⟨by simp [dotted_ne_nil hx], ?_⟩
    simp only [List.append_assoc]
    exact dotted_head hx _

theorem FromItem.head {G : List Char → Prop} {t n : List Char} (h : FromItem G t n) :
    t ≠ [] ∧ ∀ c ∈ t.head?, isWordChar c = true := by
  cases h with
  | name hx => exact ⟨hx.1, by simpa using hx.head []⟩
  | aliased hx _ _ _ _ _ =>
    refine ⟨by simp [hx.1], ?_⟩
    simp only [List.append_assoc]
    exact hx.head _

theorem Items.line {Item : List Char → List Char → Prop} {items b : List Char}
    {ns : List (List Char)}
    (hItem : ∀ t n, Item t n → (t ≠ [] ∧ ∀ c ∈ t.head?, isWordChar c = true) ∧
      ∀ c ∈ t, isWordChar c = true ∨ c = '.' ∨ (isBlank c = true ∧ c ≠ '\n'))
    (h : Items Item LineBlanks items ns) (hb : LineBlanks b) :
    items ++ b ≠ [] ∧ (∀ c ∈ (items ++ b).head?, isWordChar c = true) ∧
      ∀ c ∈ items ++ b, c ≠ '#' ∧ c ≠ '\n' := by
  have hne := h.ne_nil fun t n hi => (hItem t n hi).1.1
  have hchars := h.forall_mem (by decide)
    (fun t n hi c hc => ne_hash_newline ((hItem t n hi).2 c hc))
    fun g hg c hc => ne_hash_newline (.inr (.inr (hg c hc)))
  refine ⟨by simp [hne], head_append_of_ne_nil hne (h.head? fun t n hi => (hItem t n hi).1) b, ?_⟩
  intro c hc
  rcases List.mem_append.1 hc with hc | hc
  · exact hchars c hc
  · exact ne_hash_newline (.inr (.inr (hb c hc)))

theorem importAt_plain {h items b z : List Char} {ns : List (List Char)} (hh : ImportHead h)
    (hitems : Items PlainItem LineBlanks items ns) (hb : LineBlanks b)
    (hz : ∀ c ∈ z.head?, c = '#' ∨ c = '\n') :
    importAt (h ++ items ++ b ++ z) = some (items ++ b, (h ++ items ++ b).length) := by
  obtain ⟨hne, hhead, hchars⟩ :=
    hitems.line (fun _ _ hi => ⟨PlainItem.head hi, PlainItem.mem hi⟩) hb
  rw [List.append_assoc h items b]
  exact importAt_line hh hne (fun c hc => isInlineBlank_eq_false_of_isWordChar (hhead c hc)) hchars
    hz

theorem fromAt_star {h b z : List Char} (hh : FromHead h) (hb : LineBlanks b)
    (hz : ∀ c ∈ z.head?, c = '#' ∨ c = '\n') :
    fromAt (h ++ '*' :: b ++ z) = some ('*' :: b, (h ++ '*' :: b).length) := by
  refine fromAt_line hh (List.cons_ne_nil _ _) (fun c hc => ?_) (fun c hc => ?_) hz
  · simp only [List.head?_cons, Option.mem_def, Option.some.injEq] at hc
    subst hc
    decide
  · rcases List.mem_cons.1 hc with rfl | hc
    · decide
    · exact ne_hash_newline (.inr (.inr (hb c hc)))

theorem fromAt_names {h items b z : List Char} {ns : List (List Char)} (hh : FromHead h)
    (hitems : Items (FromItem LineBlanks) LineBlanks items ns) (hb : LineBlanks b)
    (hz : ∀ c ∈ z.head?, c = '#' ∨ c = '\n') :
    fromAt (h ++ items ++ b ++ z) = some (items ++ b, (h ++ items ++ b).length) := by
  obtain ⟨hne, hhead, hchars⟩ := hitems.line (fun _ _ hi => ⟨FromItem.head hi,
    fun c hc => (FromItem.mem (fun _ hg => hg) hi c hc).imp_right .inr⟩) hb
  rw [List.append_assoc h items b]
  exact fromAt_line hh hne (fun c hc => ⟨isInlineBlank_eq_false_of_isWordChar (hhead c hc),
    ne_of_isWordChar (hhead c hc) (by decide)⟩) hchars hz

theorem ne_close_of_blank {c : Char} (h : isBlank c = true) : c ≠ ')' := by
  rintro rfl
  exact absurd h (by decide)

theorem close_not_mem_bracketed {p₁ items p₂ comma p₃ : List Char} {ns : List (List Char)}
    (hp₁ : Blanks p₁) (hitems : Items (FromItem Blanks) Blanks items ns) (hp₂ : Blanks p₂)
    (hcomma : comma = [] ∨ comma = [',']) (hp₃ : Blanks p₃) :
    ')' ∉ p₁ ++ items ++ p₂ ++ comma ++ p₃ := by
  have hchars : ∀ c ∈ items, c ≠ ')' := hitems.forall_mem (by decide)
    (fun t n hi c hc => by
      rcases hi.mem (fun g hg => hg) c hc with h | h
      · exact ne_of_isWordChar h (by decide)
      · exact ne_close_of_blank h)
    fun g hg c hc => ne_close_of_blank (hg c hc)
  intro hc
  simp only [List.mem_append] at hc
  rcases hc with (((hc | hc) | hc) | hc) | hc
  · exact ne_close_of_blank (hp₁ _ hc) rfl
  · exact hchars _ hc rfl
  · exact ne_close_of_blank (hp₂ _ hc) rfl
  · rcases hcomma with rfl | rfl <;> simp at hc
  · exact ne_close_of_blank (hp₃ _ hc) rfl

/-! ### Names of the captures -/

/-- The names the collector reads from an `import` capture. -/
def plainNames (list : List Char) : List (List Char) :=
  (importItems list).map (boundName · true) |>.filter fun n => !n.isEmpty

/-- The names the collector reads from a `from` capture. -/
def fromNames (list : List Char) : List (List Char) :=
  (importItems list).map (boundName · false) |>.filter fun n => !n.isEmpty && n != ['*']

theorem collectImports_eq (src : String) :
    collectImports src =
      ((matchesAtLineStarts importAt src.toList).flatMap plainNames ++
        (matchesAtLineStarts fromAt src.toList).flatMap fromNames).map String.ofList :=
  rfl

theorem map_eq_of_forall₂ {R : List Char → List Char → Prop} {f : List Char → List Char}
    (hf : ∀ t n, R t n → f t = n) {ts ns : List (List Char)} (h : List.Forall₂ R ts ns) :
    ts.map f = ns := by
  rw [← List.forall₂_eq_eq_eq, List.forall₂_map_left_iff]
  exact h.imp fun t n => hf t n

theorem plainNames_items {items post : List Char} {ns : List (List Char)}
    (h : Items PlainItem LineBlanks items ns) (hpost : ListEnd post) :
    plainNames (items ++ post) = ns := by
  have hF :=
    importItems_items (fun g hg => hg.blanks) (fun t n hi => hi.itemText) h blanks_nil hpost
  rw [List.nil_append] at hF
  unfold plainNames
  rw [map_eq_of_forall₂ (fun t n hi => hi.boundName) hF]
  exact List.filter_eq_self.2 fun n hn => by
    simpa using (h.forall_name (fun _ _ hi => PlainItem.isName hi) n hn).1

theorem fromNames_items {G : List Char → Prop} (hG : ∀ g, G g → Blanks g)
    {pre items post : List Char} {ns : List (List Char)} (h : Items (FromItem G) G items ns)
    (hpre : Blanks pre) (hpost : ListEnd post) : fromNames (pre ++ items ++ post) = ns := by
  have hF := importItems_items hG (fun t n hi => hi.itemText hG) h hpre hpost
  unfold fromNames
  rw [map_eq_of_forall₂ (fun t n hi => hi.boundName hG) hF]
  refine List.filter_eq_self.2 fun n hn => ?_
  have hname := h.forall_name (fun _ _ hi => FromItem.isName hi) n hn
  -- a name is made of word characters, and the star is none
  have hstar : n ≠ ['*'] := by
    rintro rfl
    exact absurd (hname.2 '*' List.mem_cons_self) (by decide)
  simpa [hname.1] using hstar

theorem fromNames_star {b : List Char} (hb : Blanks b) : fromNames ('*' :: b) = [] := by
  have hstar : ItemText ['*'] := ⟨by simp, by simp, by simp; decide, by simp; decide⟩
  have hitems : importItems ('*' :: b) = [['*']] := by
    have h := trim_importPiece blanks_nil hb hstar
    simp only [List.nil_append, List.singleton_append] at h
    rw [importItems_of_not_mem (by simpa using not_mem_of_blanks hb (by decide)), h]
    rfl
  unfold fromNames
  rw [hitems, List.map_singleton,
    boundName_of_words_single (words_of_not_blank (by simp) (by simp; decide)), if_neg (by simp)]
  rfl

/-! ### Chunks and scripts -/

theorem noMatch_importAt_of_not_startsImport {l : List Char} (h : ¬ StartsImport l) :
    NoMatch importAt l :=
  noMatch_importAt fun hs => h (.inl hs)

theorem noMatch_fromAt_of_not_startsImport {l : List Char} (h : ¬ StartsImport l) :
    NoMatch fromAt l :=
  noMatch_fromAt fun hs => h (.inr hs)

theorem scan_importAt_of_fromHead {h t after : List Char} (hh : FromHead h) (ht : h <+: t)
    (ha : EndsLine after) (htail : ∀ l ∈ (t.splitOn '\n').tail, ¬ StartsImport l) :
    matchesAtLineStarts importAt (t ++ after) = matchesAtLineStarts importAt (after.drop 1) := by
  obtain ⟨x, rfl⟩ := ht
  refine matchesAtLineStarts_first_none importAt ha (by simp [hh.ne_nil]) ?_
    fun l hl => noMatch_importAt_of_not_startsImport (htail l hl)
  rw [List.append_assoc]
  exact importAt_of_fromHead hh

theorem scan_fromAt_of_importHead {h t after : List Char} (hh : ImportHead h) (ht : h <+: t)
    (ha : EndsLine after) (htail : ∀ l ∈ (t.splitOn '\n').tail, ¬ StartsImport l) :
    matchesAtLineStarts fromAt (t ++ after) = matchesAtLineStarts fromAt (after.drop 1) := by
  obtain ⟨x, rfl⟩ := ht
  refine matchesAtLineStarts_first_none fromAt ha (by simp [hh.ne_nil]) ?_
    fun l hl => noMatch_fromAt_of_not_startsImport (htail l hl)
  rw [List.append_assoc]
  exact fromAt_of_importHead hh

theorem StatementEnd.rest_head {r after : List Char} (hr : r = [] ∨ r.head? = some '#')
    (ha : EndsLine after) : ∀ c ∈ (r ++ after).head?, c = '#' ∨ c = '\n' := by
  rcases hr with rfl | hr
  · exact fun c hc => .inr (ha c hc)
  · intro c hc
    obtain ⟨x, r', rfl⟩ : ∃ x r', r = x :: r' := by
      cases r with
      | nil => simp at hr
      | cons x r' => exact ⟨x, r', rfl⟩
    simp only [List.head?_cons, Option.some.injEq] at hr
    simp only [List.cons_append, List.head?_cons, Option.mem_def, Option.some.injEq] at hc
    exact .inl (hc ▸ hr)

theorem StatementEnd.newline_not_mem {e : List Char} (he : StatementEnd e) : '\n' ∉ e := by
  obtain ⟨b, r, hb, hr, -, rfl⟩ := he
  simp only [List.mem_append, not_or]
  exact ⟨fun hm => (hb _ hm).2 rfl, hr⟩

theorem listEnd_of_comma {p₂ comma p₃ : List Char} (hp₂ : Blanks p₂)
    (hcomma : comma = [] ∨ comma = [',']) (hp₃ : Blanks p₃) : ListEnd (p₂ ++ comma ++ p₃) := by
  rcases hcomma with rfl | rfl
  · refine .inl fun c hc => ?_
    simp only [List.append_nil, List.mem_append] at hc
    exact hc.elim (hp₂ c) (hp₃ c)
  · exact .inr ⟨p₂, p₃, hp₂, hp₃, by simp⟩

theorem Chunk.scan_importAt {t : List Char} {ps fs : List (List Char)} (hc : Chunk t ps fs)
    {after : List Char} (ha : EndsLine after) :
    (matchesAtLineStarts importAt (t ++ after)).flatMap plainNames =
      ps ++ (matchesAtLineStarts importAt (after.drop 1)).flatMap plainNames := by
  cases hc with
  | other hnl hstart =>
    rw [matchesAtLineStarts_skip_text importAt ha fun l hl => by
      rw [splitOn_of_not_mem hnl, List.mem_singleton] at hl
      exact hl ▸ noMatch_importAt_of_not_startsImport hstart]
    rfl
  | statement hs htail =>
    cases hs with
    | @plain h items e ns hh hitems he =>
      obtain ⟨b, r, hb, hr, hrh, rfl⟩ := he
      rw [show h ++ items ++ (b ++ r) ++ after = h ++ items ++ b ++ (r ++ after) by simp,
        matchesAtLineStarts_match importAt (by simp [hh.ne_nil])
          (importAt_plain hh hitems hb (StatementEnd.rest_head hrh ha)) hr ha,
        List.flatMap_cons, plainNames_items hitems (.inl hb.blanks)]
    | star hh _ =>
      rw [scan_importAt_of_fromHead hh (List.prefix_append _ _) ha htail]
      rfl
    | names hh _ _ =>
      rw [scan_importAt_of_fromHead hh ((List.prefix_append _ _).trans (List.prefix_append _ _))
        ha htail]
      rfl
    | bracketed hh _ _ _ _ _ _ =>
      rw [scan_importAt_of_fromHead hh
        (by simp only [List.append_assoc]; exact List.prefix_append _ _) ha htail]
      rfl

theorem Chunk.scan_fromAt {t : List Char} {ps fs : List (List Char)} (hc : Chunk t ps fs)
    {after : List Char} (ha : EndsLine after) :
    (matchesAtLineStarts fromAt (t ++ after)).flatMap fromNames =
      fs ++ (matchesAtLineStarts fromAt (after.drop 1)).flatMap fromNames := by
  cases hc with
  | other hnl hstart =>
    rw [matchesAtLineStarts_skip_text fromAt ha fun l hl => by
      rw [splitOn_of_not_mem hnl, List.mem_singleton] at hl
      exact hl ▸ noMatch_fromAt_of_not_startsImport hstart]
    rfl
  | statement hs htail =>
    cases hs with
    | plain hh _ _ =>
      rw [scan_fromAt_of_importHead hh ((List.prefix_append _ _).trans (List.prefix_append _ _))
        ha htail]
      rfl
    | @star h e hh he =>
      obtain ⟨b, r, hb, hr, hrh, rfl⟩ := he
      rw [show h ++ '*' :: (b ++ r) ++ after = h ++ '*' :: b ++ (r ++ after) by simp,
        matchesAtLineStarts_match fromAt (by simp [hh.ne_nil])
          (fromAt_star hh hb (StatementEnd.rest_head hrh ha)) hr ha,
        List.flatMap_cons, fromNames_star hb.blanks]
    | @names h items e ns hh hitems he =>
      obtain ⟨b, r, hb, hr, hrh, rfl⟩ := he
      rw [show h ++ items ++ (b ++ r) ++ after = h ++ items ++ b ++ (r ++ after) by simp,
        matchesAtLineStarts_match fromAt (by simp [hh.ne_nil])
          (fromAt_names hh hitems hb (StatementEnd.rest_head hrh ha)) hr ha,
        List.flatMap_cons, ← List.nil_append items,
        fromNames_items (fun g hg => hg.blanks) hitems blanks_nil (.inl hb.blanks)]
    | @bracketed h p₁ items p₂ comma p₃ e ns hh hp₁ hitems hp₂ hcomma hp₃ he =>
      rw [show h ++ '(' :: p₁ ++ items ++ p₂ ++ comma ++ p₃ ++ ')' :: e ++ after =
          h ++ '(' :: (p₁ ++ items ++ (p₂ ++ comma ++ p₃)) ++ [')'] ++ (e ++ after) by simp,
        matchesAtLineStarts_match fromAt (by simp [hh.ne_nil])
          (fromAt_bracket hh (by
            simpa only [List.append_assoc] using close_not_mem_bracketed hp₁ hitems hp₂ hcomma hp₃))
          he.newline_not_mem ha,
        List.flatMap_cons,
        fromNames_items (fun g hg => hg) hitems hp₁ (listEnd_of_comma hp₂ hcomma hp₃)]

theorem Script.scan {t : List Char} {ps fs : List (List Char)} (h : Script t ps fs) :
    (matchesAtLineStarts importAt t).flatMap plainNames = ps ∧
      (matchesAtLineStarts fromAt t).flatMap fromNames = fs := by
  induction h with
  | last hc =>
    have hi := hc.scan_importAt endsLine_nil
    have hf := hc.scan_fromAt endsLine_nil
    simp only [List.append_nil, List.drop_nil, matchesAtLineStarts.eq_1, List.flatMap_nil] at hi hf
    exact ⟨hi, hf⟩
  | cons hc _ ih =>
    rw [hc.scan_importAt (endsLine_newline _), hc.scan_fromAt (endsLine_newline _), List.drop_one,
      List.tail_cons, ih.1, ih.2]
    exact ⟨rfl, rfl⟩

/-- On a script made of well-formed import statements and of lines that begin none, the
collector returns exactly the names the statements bind: those of the `import` statements, then
those of the `from` statements, each in order. -/
theorem collectImports_of_script {t : List Char} {ps fs : List (List Char)} (h : Script t ps fs) :
    collectImports (String.ofList t) = (ps ++ fs).map String.ofList := by
  obtain ⟨hp, hf⟩ := h.scan
  rw [collectImports_eq, String.toList_ofList, hp, hf]

theorem collectImports_bracketed_list :
    Script "from typing import (\n    List,\n    Dict,\n)\n".toList []
        ["List".toList, "Dict".toList] ∧
      collectImports "from typing import (\n    List,\n    Dict,\n)\n" = ["List", "Dict"] := by
  have hhead : FromHead
      ([] ++ "from".toList ++ [' '] ++ "typing".toList ++ [' '] ++ "import".toList ++ [' ']) :=
    ⟨[], [' '], "typing".toList, [' '], [' '], by decide, by decide, by simp, by decide, by decide,
      by simp, by decide, by simp, rfl⟩
  have hitems : Items (FromItem Blanks) Blanks
      ("List".toList ++ [] ++ ',' :: "\n    ".toList ++ "Dict".toList)
      ["List".toList, "Dict".toList] :=
    .cons (.name (by decide)) (by decide) (by decide) (.one (.name (by decide)))
  have hend : StatementEnd [] := ⟨[], [], fun _ h => absurd h List.not_mem_nil, by simp, .inl rfl,
    rfl⟩
  have hst := Statement.bracketed hhead (by decide : Blanks "\n    ".toList) hitems
    (by decide : Blanks []) (.inr rfl) (by decide : Blanks ['\n']) hend
  -- the statement, then the empty line after its newline
  have hs := Script.cons (Chunk.statement hst (tail_not_startsImport (by decide)))
    (Script.last (Chunk.other List.not_mem_nil (not_startsImport (by decide))))
  have heq : "from typing import (\n    List,\n    Dict,\n)\n".toList =
      [] ++ "from".toList ++ [' '] ++ "typing".toList ++ [' '] ++ "import".toList ++ [' '] ++
        '(' :: "\n    ".toList ++
        ("List".toList ++ [] ++ ',' :: "\n    ".toList ++ "Dict".toList) ++
        [] ++ [','] ++ ['\n'] ++ ')' :: [] ++ '\n' :: [] := by
    simp
  rw [heq]
  exact ⟨hs, by simpa using collectImports_of_script hs⟩

end MixedScript.Scope
