import MixedScript.Proofs.Target.Literal

/-!
# The argument list of a program

A program's preamble sets `sys.argv` from a placeholder, and the compiler fills in the script's
name and arguments there as a list display of single-quoted literals. Main statement: the host
reads the literal of any text without NUL characters back as the text, and reads the filled-in
display back as the name followed by the arguments, while the rest of the preamble is the shipped
text unchanged.
-/

namespace MixedScript.Target

open Literal

theorem replaceFirst_append {pat : List Char} (hpat : pat ≠ []) (r : List Char) {pre : List Char}
    (hpre : occursIn pat (pre ++ pat.dropLast) = false) (post : List Char) :
    replaceFirst pat r (pre ++ pat ++ post) = pre ++ r ++ post := by
  induction pre with
  | nil =>
    obtain ⟨c, cs, rfl⟩ := List.exists_cons_of_ne_nil hpat
    simp [replaceFirst]
  | cons c pre ih =>
    simp only [List.cons_append, occursIn, Bool.or_eq_false_iff] at hpre
    -- A match at `c` would lie within the text checked there, which is as long as the pattern.
    have hno : ¬ pat <+: c :: (pre ++ pat ++ post) := by
      intro hp
      have hcut : c :: (pre ++ pat.dropLast) <+: c :: (pre ++ pat ++ post) := by
        rw [List.append_assoc]
        exact (List.prefix_append_right_inj [c]).2
          ((List.prefix_append_right_inj pre).2 ((List.dropLast_prefix pat).trans
            (List.prefix_append pat post)))
      have hlen : pat.length ≤ (c :: (pre ++ pat.dropLast)).length := by
        simp only [List.length_cons, List.length_append, List.length_dropLast]
        omega
      have hfound := List.isPrefixOf_iff_prefix.2 (List.prefix_of_prefix_length_le hp hcut hlen)
      rw [hpre.1] at hfound
      cases hfound
    rw [List.cons_append, List.cons_append, replaceFirst,
      if_neg (by simpa [List.isPrefixOf_iff_prefix] using hno), ih hpre.2]
    rfl

theorem headerText_toList :
    headerText.toList =
      (String.join ((headerLines.take 11).map (· ++ "\n")) ++ "sys.argv = ").toList ++
        argsPlaceholder.toList ++
          ("\n" ++ String.join ((headerLines.drop 12).map (· ++ "\n"))).toList := by
  have hdrop : headerLines.drop 11 = "sys.argv = \"PROGRAM_ARGS\"" :: headerLines.drop 12 := rfl
  have hline : "sys.argv = \"PROGRAM_ARGS\"" = "sys.argv = " ++ argsPlaceholder := by
    decide +kernel
  have hsplit : headerLines =
      headerLines.take 11 ++ "sys.argv = \"PROGRAM_ARGS\"" :: headerLines.drop 12 := by
    rw [← hdrop, List.take_append_drop]
  rw [headerText]
  conv => lhs; rw [hsplit, hline]
  simp only [List.map_append, List.map_cons, String.join_append, String.join_cons,
    String.toList_append, List.append_assoc]

theorem argsPlaceholder_first :
    occursIn argsPlaceholder.toList
      ((String.join ((headerLines.take 11).map (· ++ "\n")) ++ "sys.argv = ").toList ++
        argsPlaceholder.toList.dropLast) = false := by
  decide +kernel

/-- The compiler's single-quoted literal of a text without NUL characters has no line break
and is read back as the text, up to its closing quote. A program's preamble is the shipped one
with the placeholder replaced by the list display of its script name and arguments, which the
host reads back, when none holds a NUL character, as the name followed by the arguments. -/
theorem preamble_arguments_read_back :
    (∀ (s : String) (rest : List Char), '\x00' ∉ s.toList → (s = "" → rest.head? ≠ some '\'') →
      '\n' ∉ (quoteSingle s).toList ∧ '\r' ∉ (quoteSingle s).toList ∧
        read ((quoteSingle s).toList ++ rest) = some (codePoints s, rest)) ∧
    ∀ (script : String) (args : List String), (∀ s ∈ script :: args, '\x00' ∉ s.toList) →
      ∃ pre post : List Char, headerText.toList = pre ++ argsPlaceholder.toList ++ post ∧
        (preamble script args).toList =
          pre ++ ("[" ++ ", ".intercalate ((script :: args).map quoteSingle) ++ "]").toList ++
            post ∧
        readDisplay (("[" ++ ", ".intercalate ((script :: args).map quoteSingle) ++ "]").toList ++
          post) = some ((script :: args).map codePoints, post) := by
  refine ⟨fun s rest hs hrest => read_quoteSingle hs hrest, fun script args hs => ?_⟩
  refine ⟨_, _, headerText_toList, ?_, readDisplay_quoteSingle hs _⟩
  rw [preamble, String.toList_ofList, headerText_toList,
    replaceFirst_append (by decide) _ argsPlaceholder_first]

theorem preamble_arguments_read_back_build :
    '\x00' ∉ "it's".toList ∧ ("it's" = "" → [']'].head? ≠ some '\'') ∧
    read ((quoteSingle "it's").toList ++ [']']) = some (codePoints "it's", [']']) ∧
    (∀ s ∈ ["build.script", "--fast", "it's"], '\x00' ∉ s.toList) ∧
    "[" ++ ", ".intercalate (["build.script", "--fast", "it's"].map quoteSingle) ++ "]" =
      "['build.script', '--fast', 'it\\'s']" ∧
    ∃ pre post : List Char, headerText.toList = pre ++ argsPlaceholder.toList ++ post ∧
      (preamble "build.script" ["--fast", "it's"]).toList =
        pre ++ "['build.script', '--fast', 'it\\'s']".toList ++ post ∧
      readDisplay ("['build.script', '--fast', 'it\\'s']".toList ++ post) =
        some (["build.script", "--fast", "it's"].map codePoints, post) := by
  have h₀ : '\x00' ∉ "it's".toList := by decide
  have hs : ∀ s ∈ ["build.script", "--fast", "it's"], '\x00' ∉ s.toList := by
    intro s hs
    simp only [List.mem_cons, List.not_mem_nil, or_false] at hs
    rcases hs with rfl | rfl | rfl <;> decide
  have hdisplay : "[" ++ ", ".intercalate (["build.script", "--fast", "it's"].map quoteSingle) ++
      "]" = "['build.script', '--fast', 'it\\'s']" := by
    decide +kernel
  have hread := preamble_arguments_read_back.1 "it's" [']'] h₀ (by decide)
  obtain ⟨pre, post, hhead, hpre, hlist⟩ := preamble_arguments_read_back.2 "build.script"
    ["--fast", "it's"] hs
  rw [hdisplay] at hpre hlist
  exact ⟨h₀, by decide, hread.2.2, hs, hdisplay, pre, post, hhead, hpre, hlist⟩

end MixedScript.Target
