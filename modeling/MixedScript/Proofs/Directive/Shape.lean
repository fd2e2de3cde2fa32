import Mathlib
import MixedScript.Directive

/-!
# The shape of a directive line

Before its comment, a line that `Directive.parse?` accepts holds only blanks and the characters
of paths and identifiers, and its comment, if it has one, starts with `#` after a blank. A
layout reads such text as plain code, which is why a directive line can carry no inline
substitution and no soft break.
-/

namespace MixedScript.Directive

open MixedScript.Text MixedScript.Scope

/-- A character that a directive may hold before its comment. -/
def isLeadChar (c : Char) : Bool :=
  isInlineBlank c || isSegmentChar c || c == '/'

/-- Text made only of such characters. -/
def Plain (w : List Char) : Prop :=
  ∀ c ∈ w, isLeadChar c = true

instance : DecidablePred Plain :=
  fun w => decidable_of_iff (w.all isLeadChar = true) List.all_eq_true

/-- Plain text that ends in a blank, then a comment. -/
def Remarked (w : List Char) : Prop :=
  ∃ pre com, w = pre ++ '#' :: com ∧ Plain pre ∧
    ∃ b, pre.getLast? = some b ∧ isInlineBlank b = true

/-- How a directive line looks: plain, or plain with a comment. -/
def Shaped (w : List Char) : Prop :=
  Plain w ∨ Remarked w

@[simp] theorem plain_nil : Plain [] := by
  simp [Plain]

@[simp] theorem plain_append {xs ys : List Char} : Plain (xs ++ ys) ↔ Plain xs ∧ Plain ys := by
  simp [Plain, or_imp, forall_and]

@[simp] theorem plain_cons {c : Char} {w : List Char} :
    Plain (c :: w) ↔ isLeadChar c = true ∧ Plain w := by
  simp [Plain]

theorem isLeadChar_of_isInlineBlank {c : Char} (h : isInlineBlank c = true) :
    isLeadChar c = true := by
  simp [isLeadChar, h]

theorem isLeadChar_of_isWordChar {c : Char} (h : isWordChar c = true) : isLeadChar c = true := by
  simp [isLeadChar, isSegmentChar, h]

theorem isWordChar_of_isAlphanum {c : Char} (h : c.isAlphanum = true) : isWordChar c = true := by
  have hlt : c.toNat < 0x80 := by
    simp only [Char.isAlphanum, Char.isAlpha, Char.isUpper, Char.isLower, Char.isDigit,
      Bool.or_eq_true, Bool.and_eq_true, decide_eq_true_eq] at h
    rcases h with (⟨-, h⟩ | ⟨-, h⟩) | ⟨-, h⟩ <;>
      · have := UInt32.le_iff_toNat_le.1 h
        simp at this
        omega
  simp [isWordChar, hlt, h]

theorem isWordChar_of_isIdentStart {c : Char} (h : isIdentStart c = true) : isWordChar c = true := by
  simp only [isIdentStart, Bool.or_eq_true, beq_iff_eq] at h
  rcases h with h | rfl
  · exact isWordChar_of_isAlphanum (by simp [Char.isAlphanum, h])
  · decide

theorem Remarked.of_append {w v : List Char} (h : Remarked (w ++ v)) : Shaped w := by
  obtain ⟨pre, com, he, hp, hb⟩ := h
  rcases List.append_eq_append_iff.1 he with ⟨a, rfl, -⟩ | ⟨c, rfl, hc⟩
  · exact .inl (plain_append.1 hp).1
  · cases c with
    | nil => exact .inl (by simpa using hp)
    | cons x c =>
      simp only [List.cons_append, List.cons.injEq] at hc
      obtain ⟨rfl, -⟩ := hc
      exact .inr ⟨pre, c, rfl, hp, hb⟩

theorem Shaped.of_append {w v : List Char} (h : Shaped (w ++ v)) : Shaped w := by
  rcases h with h | h
  · exact .inl (plain_append.1 h).1
  · exact h.of_append

theorem remarked_append_singleton {w : List Char} {c : Char} (h : Remarked (w ++ [c])) :
    Remarked w ∨ (c = '#' ∧ Plain w ∧ ∃ b, w.getLast? = some b ∧ isInlineBlank b = true) := by
  obtain ⟨pre, com, he, hp, hb⟩ := h
  rcases List.eq_nil_or_concat com with rfl | ⟨com', x, rfl⟩
  · obtain ⟨rfl, hc⟩ := List.append_inj' he rfl
    obtain rfl : c = '#' := by simpa using hc
    exact .inr ⟨rfl, hp, hb⟩
  · rw [show pre ++ '#' :: com'.concat x = (pre ++ '#' :: com') ++ [x] by simp] at he
    obtain ⟨rfl, hc⟩ := List.append_inj' he rfl
    obtain rfl : c = x := by simpa using hc
    exact .inl ⟨pre, com', rfl, hp, hb⟩

theorem plain_takeWhile_isInlineBlank (cs : List Char) : Plain (cs.takeWhile isInlineBlank) :=
  fun _ hc => isLeadChar_of_isInlineBlank (List.mem_takeWhile_imp hc)

theorem identAt_append_drop (cs : List Char) : identAt cs ++ cs.drop (identAt cs).length = cs := by
  cases cs with
  | nil => rfl
  | cons c rest =>
    by_cases hc : isIdentStart c
    · simpa [identAt, hc, countWhile] using takeWhile_append_drop_countWhile isWordChar rest
    · simp [identAt, hc]

theorem plain_identAt (cs : List Char) : Plain (identAt cs) := by
  cases cs with
  | nil => simp [identAt]
  | cons c rest =>
    by_cases hc : isIdentStart c
    · simp only [identAt, hc, if_true, plain_cons]
      exact ⟨isLeadChar_of_isWordChar (isWordChar_of_isIdentStart hc),
        fun _ hx => isLeadChar_of_isWordChar (List.mem_takeWhile_imp hx)⟩
    · simp [identAt, hc]

theorem mem_intercalate_singleton {x c : Char} {l : List (List Char)}
    (h : c ∈ [x].intercalate l) : c = x ∨ ∃ p ∈ l, c ∈ p := by
  induction l with
  | nil => simp at h
  | cons p ps ih =>
    cases ps with
    | nil => exact .inr ⟨p, by simp, by simpa using h⟩
    | cons q qs =>
      rw [List.intercalate_cons_cons] at h
      simp only [List.mem_append, List.mem_singleton] at h
      rcases h with (h | h) | h
      · exact .inr ⟨p, by simp, h⟩
      · exact .inl h
      · rcases ih h with h | ⟨p', hp', hc⟩
        · exact .inl h
        · exact .inr ⟨p', List.mem_cons_of_mem _ hp', hc⟩

theorem plain_of_isFileName {name : List Char} (h : isFileName name = true) : Plain name := by
  unfold isFileName at h
  split at h
  · rename_i c stem ext hs
    have hsplit : ['.'].intercalate (name.splitOn '.') = name := List.intercalate_splitOn '.'
    have hname : name = c :: stem ++ '.' :: ext := by
      rw [← hsplit, hs]
      simp
    simp only [Bool.and_eq_true, Bool.not_eq_true', List.all_eq_true, Bool.or_eq_true,
      beq_iff_eq] at h
    obtain ⟨⟨⟨hc, hstem⟩, -⟩, hext⟩ := h
    rw [hname]
    simp only [List.cons_append, plain_cons, plain_append]
    refine ⟨?_, fun x hx => ?_, by decide, fun x hx => isLeadChar_of_isWordChar (hext x hx)⟩
    · simp only [isNameStart, Bool.or_eq_true, beq_iff_eq] at hc
      rcases hc with (hc | rfl) | rfl
      · exact isLeadChar_of_isWordChar (isWordChar_of_isAlphanum hc)
      · decide
      · decide
    · rcases hstem x hx with hx | rfl
      · exact isLeadChar_of_isWordChar hx
      · decide
  · simp at h

theorem plain_of_isScriptPath {path : List Char} (h : isScriptPath path = true) : Plain path := by
  unfold isScriptPath at h
  split at h
  · rename_i name dirs hs
    have hpieces : path.splitOn '/' = dirs.reverse ++ [name] := by
      rw [← List.reverse_reverse (path.splitOn '/'), hs]
      simp
    simp only [Bool.and_eq_true, List.all_eq_true] at h
    obtain ⟨hname, hdirs⟩ := h
    have hsplit : ['/'].intercalate (path.splitOn '/') = path := List.intercalate_splitOn '/'
    intro c hc
    rw [← hsplit, hpieces] at hc
    rcases mem_intercalate_singleton hc with rfl | ⟨p, hp, hcp⟩
    · decide
    · simp only [List.mem_append, List.mem_reverse, List.mem_singleton] at hp
      rcases hp with hp | rfl
      · have hseg := hdirs p hp
        simp only [Bool.not_eq_true', List.isEmpty_eq_false_iff] at hseg
        simp [isLeadChar, hseg.2 c hcp]
      · exact plain_of_isFileName hname c hcp
  · simp at h

theorem shaped_append_of_end {p t : List Char} (hp : Plain p)
    (ht : (t.all isInlineBlank || (decide (countWhile isInlineBlank t ≥ 1) &&
      (t.dropWhile isInlineBlank).head? == some '#' && !t.contains '\n')) = true) :
    Shaped (p ++ t) := by
  simp only [Bool.or_eq_true, List.all_eq_true, Bool.and_eq_true, decide_eq_true_eq,
    beq_iff_eq, Bool.not_eq_true'] at ht
  rcases ht with hall | ⟨⟨hb, hhash⟩, -⟩
  · exact .inl (plain_append.2 ⟨hp, fun c hc => isLeadChar_of_isInlineBlank (hall c hc)⟩)
  · right
    obtain ⟨com, hcom⟩ : ∃ com, t.dropWhile isInlineBlank = '#' :: com := by
      cases hd : t.dropWhile isInlineBlank with
      | nil => simp [hd] at hhash
      | cons x com => simp_all
    have hne : t.takeWhile isInlineBlank ≠ [] := by
      unfold countWhile at hb
      exact List.ne_nil_of_length_pos hb
    obtain ⟨b, hlast⟩ := List.getLast?_isSome.2 hne |> Option.isSome_iff_exists.1
    refine ⟨p ++ t.takeWhile isInlineBlank, com, ?_,
      plain_append.2 ⟨hp, plain_takeWhile_isInlineBlank t⟩, b, ?_, ?_⟩
    · rw [List.append_assoc, ← hcom, List.takeWhile_append_dropWhile]
    · rw [List.getLast?_append, hlast]
      rfl
    · exact List.mem_takeWhile_imp (List.mem_of_getLast? hlast)

theorem tail?_shaped {p rest : List Char} {x : Option (List Char)} (hp : Plain p)
    (h : tail? rest = some x) : Shaped (p ++ rest) := by
  unfold tail? at h
  dsimp only at h
  split at h
  · rename_i name hname
    split_ifs at hname with h₁ h₂
    simp only [Bool.and_eq_true, decide_eq_true_eq] at h₁ h₂
    have hrest := takeWhile_append_drop_countWhile isInlineBlank rest
    generalize rest.drop (countWhile isInlineBlank rest) = after at *
    obtain ⟨-, has⟩ := h₁
    have hafter : "as".toList ++ after.drop 2 = after :=
      List.prefix_iff_eq_append.1 (List.isPrefixOf_iff_prefix.1 has)
    generalize after.drop 2 = r at *
    have hr := takeWhile_append_drop_countWhile isInlineBlank r
    generalize r.drop (countWhile isInlineBlank r) = r' at *
    have hr' := identAt_append_drop r'
    have hplain := plain_identAt r'
    generalize identAt r' = name at *
    generalize r'.drop name.length = t at *
    obtain ⟨⟨-, -⟩, hend⟩ := h₂
    rw [← hrest, ← hafter, ← hr, ← hr']
    have hlead : Plain (p ++ (rest.takeWhile isInlineBlank ++ ("as".toList ++
        (r.takeWhile isInlineBlank ++ name)))) := by
      simp only [plain_append]
      exact ⟨hp, plain_takeWhile_isInlineBlank rest, by decide, plain_takeWhile_isInlineBlank r,
        hplain⟩
    simpa [List.append_assoc] using shaped_append_of_end hlead hend
  · split_ifs at h with hend
    exact shaped_append_of_end hp hend

/-- Every line that parses as a directive has a directive's shape. -/
theorem parse?_shaped {line : String} {d : Directive} (h : parse? line = some d) :
    Shaped line.toList := by
  unfold parse? at h
  dsimp only at h
  split_ifs at h with h₁ h₂
  simp only [Bool.and_eq_true, decide_eq_true_eq] at h₂
  obtain ⟨x, hx, -⟩ := Option.map_eq_some_iff.1 h
  have hline := takeWhile_append_drop_countWhile isInlineBlank line.toList
  unfold countWhile at hline
  generalize line.toList.drop (line.toList.takeWhile isInlineBlank).length = r at *
  have hr : "source".toList ++ r.drop 6 = r :=
    List.prefix_iff_eq_append.1 (List.isPrefixOf_iff_prefix.1 h₁)
  generalize r.drop 6 = r₁ at *
  have hr₁ := takeWhile_append_drop_countWhile isInlineBlank r₁
  generalize r₁.drop (countWhile isInlineBlank r₁) = r₂ at *
  have hr₂ : r₂.takeWhile (fun c => !isInlineBlank c) ++
      r₂.drop (r₂.takeWhile fun c => !isInlineBlank c).length = r₂ :=
    List.prefix_iff_eq_append.1 (List.takeWhile_prefix _)
  generalize r₂.takeWhile (fun c => !isInlineBlank c) = path at *
  generalize r₂.drop path.length = rest at *
  rw [← hline, ← hr, ← hr₁, ← hr₂]
  have hlead : Plain (line.toList.takeWhile isInlineBlank ++ ("source".toList ++
      (r₁.takeWhile isInlineBlank ++ path))) := by
    simp only [plain_append]
    exact ⟨plain_takeWhile_isInlineBlank _, by decide, plain_takeWhile_isInlineBlank _,
      plain_of_isScriptPath h₂.2⟩
  simpa [List.append_assoc] using tail?_shaped hlead hx

end MixedScript.Directive
