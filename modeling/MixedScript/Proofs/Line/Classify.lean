import Mathlib.Tactic.SplitIfs
import MixedScript.Line.Classify
import MixedScript.Proofs.Layout.Directives

/-!
# What the classifier reads of a statement

A statement's class depends on the scope only through whether its first part is a known name, so
more imports change nothing for a statement that starts with none of them. A line that starts
with `source` is host code when `source` is known and a directive otherwise.
-/

namespace MixedScript.NameSet

theorem contains_insert (s : NameSet) (x m : String) :
    (s.insert x).contains m = (s.contains m || m == x) := by
  rw [Bool.eq_iff_iff]
  simp [contains, insert, mem_insertSorted, or_comm]

theorem contains_foldl_insert (names : List String) (s : NameSet) (m : String) :
    (names.foldl insert s).contains m = (s.contains m || names.contains m) := by
  induction names generalizing s with
  | nil => simp
  | cons n names ih =>
    rw [List.foldl_cons, ih, contains_insert, Bool.eq_iff_iff]
    simp [or_assoc]

end MixedScript.NameSet

namespace MixedScript.Line

open MixedScript.Text MixedScript.Layout MixedScript.Scope

theorem mem_trimStart {cs : List Char} {c : Char} (hc : c ∈ cs) (hb : isBlank c = false) :
    c ∈ trimStart cs := by
  have hsplit : cs.takeWhile isBlank ++ cs.dropWhile isBlank = cs := List.takeWhile_append_dropWhile
  rw [← hsplit] at hc
  rcases List.mem_append.1 hc with h | h
  · simpa [hb] using List.mem_takeWhile_imp h
  · exact h

theorem mem_trim {cs : List Char} {c : Char} (hc : c ∈ cs) (hb : isBlank c = false) :
    c ∈ trim cs :=
  List.mem_reverse.2 (mem_trimStart (List.mem_reverse.2 (mem_trimStart hc hb)) hb)

theorem mem_unparen {t : List Char} {c : Char} (hc : c ∈ t) (hp : c ≠ '(') :
    c ∈ (match t with
      | '(' :: r => r
      | _ => t) := by
  split
  · exact (List.mem_cons.1 hc).resolve_left hp
  · exact hc

theorem mem_dropLastIf {t : List Char} {c x : Char} (hc : c ∈ t) (hx : c ≠ x) :
    c ∈ (if t.getLast? == some x then t.dropLast else t) := by
  split_ifs with h
  · obtain ⟨init, rfl⟩ := List.getLast?_eq_some_iff.1 (by simpa using h)
    rw [List.dropLast_concat]
    simpa [hx] using hc
  · exact hc

theorem isIdentifier_eq_false {w : List Char} {c : Char} (hc : c ∈ w) (hw : isWordChar c = false) :
    isIdentifier w = false := by
  cases w with
  | nil => rfl
  | cons x rest =>
    rcases List.mem_cons.1 hc with rfl | hc
    · have hs : isIdentStart c = false := by
        cases h : isIdentStart c
        · rfl
        · simp [Directive.isWordChar_of_isIdentStart h] at hw
      simp [isIdentifier, hs]
    · have hall : rest.all isWordChar = false := List.all_eq_false.2 ⟨c, hc, by simp [hw]⟩
      simp [isIdentifier, hall]

theorem names_not_identifiers {t : List Char} {c : Char} (hc : c ∈ t) (hw : isWordChar c = false)
    (hb : isBlank c = false) (hcomma : c ≠ ',') :
    (if ((t.splitOn ',').map trim).all isIdentifier then some ((t.splitOn ',').map trim)
      else none) = none := by
  obtain ⟨piece, hmem, hcp⟩ : ∃ piece ∈ t.splitOn ',', c ∈ piece := by
    have ht : [','].intercalate (t.splitOn ',') = t := List.intercalate_splitOn ','
    rcases Directive.mem_intercalate_singleton (ht ▸ hc) with h | h
    · exact absurd h hcomma
    · exact h
  have hall : ((t.splitOn ',').map trim).all isIdentifier = false :=
    List.all_eq_false.2 ⟨trim piece, List.mem_map_of_mem hmem,
      by simp [isIdentifier_eq_false (mem_trim hcp hb) hw]⟩
  rw [hall]
  rfl

theorem assignmentTargets_eq_none_of_mem {lhs : List Char} {c : Char} (hc : c ∈ lhs)
    (hw : isWordChar c = false) (hb : isBlank c = false) (hp : c ≠ '(') (hq : c ≠ ')')
    (hcomma : c ≠ ',') : assignmentTargets lhs = none := by
  -- The character survives each step in turn: trim, an opening parenthesis dropped, a closing
  -- one dropped, trim, a trailing comma dropped.
  have ht := mem_dropLastIf (mem_trim (mem_dropLastIf (mem_unparen (mem_trim hc hb) hp) hq) hb)
    hcomma
  unfold assignmentTargets
  exact names_not_identifiers ht hw hb hcomma

theorem splitParts_source {b : Char} {rest : List Char} (hb : isInlineBlank b = true ∨ b = '(') :
    splitParts ("source".toList ++ b :: rest) =
      "source".toList :: splitFrom (PartState.start b) false rest := by
  have hstop : (isSeparator b || isOpener b || isQuote b) = true := by
    rcases hb with hb | rfl
    · simp [isSeparator, isBlank_of_isInlineBlank hb]
    · rfl
  simp +decide [splitParts, splitFrom, PartState.start, hstop]

theorem startsWithHostName_source_cons (more : List (List Char)) (sc : Scope) :
    startsWithHostName ("source".toList :: more) sc = startsWithHostName ["source".toList] sc := by
  have hb : "source" ∉ hostBuiltins := by decide
  simp [startsWithHostName, hb]

theorem trimStart_source {line : String} {indent rest : List Char} {b : Char}
    (hline : line.toList = indent ++ "source".toList ++ b :: rest)
    (hindent : ∀ c ∈ indent, isInlineBlank c = true) :
    trimStart line.toList = "source".toList ++ b :: rest := by
  rw [hline, List.append_assoc]
  exact trimStart_blanks_append (fun c hc => isBlank_of_isInlineBlank (hindent c hc)) rfl

theorem classifyLine_source {line : String} {indent rest : List Char} {b : Char} (sc : Scope)
    (hline : line.toList = indent ++ "source".toList ++ b :: rest)
    (hindent : ∀ c ∈ indent, isInlineBlank c = true) (hb : isInlineBlank b = true ∨ b = '(')
    (hassign : '=' ∈ line.toList →
      assignmentTargets (line.toList.takeWhile (· != '=')) = none) :
    classifyLine line [] sc =
      (if startsWithHostName ["source".toList] sc then .host else .directive, sc) := by
  have hstrip := trimStart_source hline hindent
  have hcomment : isCommentLine ("source".toList ++ b :: rest) = false := by
    simp +decide [isCommentLine, List.isPrefixOf]
  have hdir : isDirective ("source".toList ++ b :: rest) = true := by
    rcases hb with hb | rfl
    · simp +decide [isDirective, isBlank_of_isInlineBlank hb]
    · simp +decide [isDirective]
  have hmask : maskSpans line.toList [] = line.toList := rfl
  unfold classifyLine
  simp only [hstrip, hcomment, splitParts_source hb, startsWithHostName_source_cons, hdir,
    List.isEmpty_nil, if_true, Bool.false_eq_true, if_false, hmask]
  by_cases hk : startsWithHostName ["source".toList] sc = true
  · rw [if_pos hk, if_pos hk]
  · rw [if_neg hk, if_neg hk]
    by_cases he : line.toList.contains '=' = true
    · rw [if_pos he, hassign (by simpa using he)]
    · rw [if_neg he]

/-- The first part of a statement, without its indentation: the name the classifier looks up. -/
def leadName (line : String) : Option String :=
  (splitParts (trimStart line.toList)).head?.map String.ofList

theorem startsWithHostName_withImports {parts : List (List Char)} {sc : Scope} {I : NameSet}
    (h : ∀ n, parts.head?.map String.ofList = some n → I.contains n = sc.imports.contains n) :
    startsWithHostName parts { sc with imports := I } = startsWithHostName parts sc := by
  unfold startsWithHostName
  split
  · rfl
  · rfl
  · rename_i first more _
    dsimp only
    rw [h (String.ofList first) rfl]

theorem foldl_assign_withImports (names : List (List Char)) (sc : Scope) (I : NameSet) :
    names.foldl (fun s n => s.assign (String.ofList n)) { sc with imports := I } =
      { names.foldl (fun s n => s.assign (String.ofList n)) sc with imports := I } := by
  induction names generalizing sc with
  | nil => rfl
  | cons n names ih => exact ih (sc.assign (String.ofList n))

theorem foldl_assign_imports (names : List (List Char)) (sc : Scope) :
    (names.foldl (fun s n => s.assign (String.ofList n)) sc).imports = sc.imports := by
  induction names generalizing sc with
  | nil => rfl
  | cons n names ih => exact ih (sc.assign (String.ofList n))

theorem classifyLine_imports (l : String) (sp : List Span) (sc : Scope) :
    (classifyLine l sp sc).2.imports = sc.imports := by
  -- The names an assignment binds are fixed before the classes split, so case on them first.
  cases hat : assignmentTargets ((maskSpans l.toList sp).takeWhile (· != '=')) with
  | none =>
    unfold classifyLine
    simp only [hat]
    split_ifs <;> rfl
  | some names =>
    unfold classifyLine
    simp only [hat]
    split_ifs <;> simp only [foldl_assign_imports]

/-- Classifying in a scope with other imports changes nothing but the imports, when the test of
the statement's first part comes out the same. -/
theorem classifyLine_withImports {l : String} {sp : List Span} {sc : Scope} {I : NameSet}
    (h : startsWithHostName (splitParts (trimStart l.toList)) { sc with imports := I } =
      startsWithHostName (splitParts (trimStart l.toList)) sc) :
    classifyLine l sp { sc with imports := I } =
      ((classifyLine l sp sc).1, { (classifyLine l sp sc).2 with imports := I }) := by
  cases hat : assignmentTargets ((maskSpans l.toList sp).takeWhile (· != '=')) with
  | none =>
    unfold classifyLine
    simp only [hat, h]
    split_ifs <;> rfl
  | some names =>
    unfold classifyLine
    simp only [hat, h]
    split_ifs <;> simp only [foldl_assign_withImports]

end MixedScript.Line
