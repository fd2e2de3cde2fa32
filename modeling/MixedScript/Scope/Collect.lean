import MixedScript.Text.Blank
import MixedScript.Text.Word

/-!
# Names bound at the top of a line

Before classifying, the whole script is searched for `import` and `from … import` statements
and for `def` and `class` headers. Each pattern is tried at every line start, left to right;
after a match the search goes on at the first line start after it, so a parenthesised import
list that spans lines hides the lines it covers.
-/

namespace MixedScript.Scope

open MixedScript.Text

/-- A space or a tab. -/
def isInlineBlank (c : Char) : Bool :=
  c == ' ' || c == '\t'

/-- How many leading characters satisfy `p`. -/
def countWhile (p : Char → Bool) (cs : List Char) : Nat :=
  (cs.takeWhile p).length

theorem isBlank_of_isInlineBlank {c : Char} (h : isInlineBlank c = true) : isBlank c = true := by
  simp only [isInlineBlank, Bool.or_eq_true, beq_iff_eq] at h
  rcases h with rfl | rfl <;> decide

theorem takeWhile_append_drop_countWhile (q : Char → Bool) (cs : List Char) :
    cs.takeWhile q ++ cs.drop (countWhile q cs) = cs :=
  List.prefix_iff_eq_append.1 (List.takeWhile_prefix q)

/-- The text after its next newline; empty when it has none. -/
def nextLine (cs : List Char) : List Char :=
  (cs.dropWhile (· != '\n')).drop 1

theorem length_nextLine_le (cs : List Char) : (nextLine cs).length ≤ cs.length - 1 := by
  have : (cs.dropWhile (· != '\n')).length ≤ cs.length := (List.dropWhile_suffix _).length_le
  simp only [nextLine, List.length_drop]
  omega

/-- Every match of a pattern tried at the line starts of a text, left to right. A match that
covers `n` characters resumes the search at the first line start after them. -/
def matchesAtLineStarts {α : Type} (tryAt : List Char → Option (α × Nat)) :
    List Char → List α
  | [] => []
  | c :: cs =>
    match tryAt (c :: cs) with
    | some (a, n) => a :: matchesAtLineStarts tryAt (nextLine ((c :: cs).drop n))
    | none => matchesAtLineStarts tryAt (nextLine (c :: cs))
termination_by cs => cs.length
decreasing_by
  all_goals
    have := length_nextLine_le
    simp only [List.length_cons] at *
  · have h := length_nextLine_le (List.drop n (c :: cs))
    simp only [List.length_drop, List.length_cons] at h
    omega
  · have h := length_nextLine_le (c :: cs)
    simp only [List.length_cons] at h
    omega

/-- The characters of an identifier at the head of a text: an ASCII letter or underscore, then
word characters. -/
def identAt (cs : List Char) : List Char :=
  match cs with
  | c :: rest => if isIdentStart c then c :: rest.takeWhile isWordChar else []
  | [] => []

/-- `import` after optional blanks, then at least one blank, then the rest of the line up to a
`#`. When nothing but blanks follows, the last blank is what is captured. -/
def importAt (cs : List Char) : Option (List Char × Nat) :=
  let lead := countWhile isInlineBlank cs
  let r := cs.drop lead
  if "import".toList.isPrefixOf r then
    let r := r.drop 6
    let b := countWhile isInlineBlank r
    let rest := r.drop b
    let g := countWhile (fun c => c != '#' && c != '\n') rest
    if b ≥ 1 && g ≥ 1 then some (rest.take g, lead + 6 + b + g)
    else if b ≥ 2 then some ((r.drop (b - 1)).take 1, lead + 6 + b)
    else none
  else none

/-- `from <module> import` and at least one blank, followed either by a parenthesised list,
which may span lines, or by the rest of the line up to a `#`. -/
def fromAt (cs : List Char) : Option (List Char × Nat) :=
  let lead := countWhile isInlineBlank cs
  let r := cs.drop lead
  if "from".toList.isPrefixOf r then
    let r := r.drop 4
    let b1 := countWhile isInlineBlank r
    let r := r.drop b1
    let m := countWhile (fun c => isWordChar c || c == '.') r
    let r := r.drop m
    let b2 := countWhile isInlineBlank r
    let r := r.drop b2
    if b1 ≥ 1 && m ≥ 1 && b2 ≥ 1 && "import".toList.isPrefixOf r then
      let r := r.drop 6
      let b3 := countWhile isInlineBlank r
      let rest := r.drop b3
      let before := lead + 4 + b1 + m + b2 + 6 + b3
      let inner := (rest.drop 1).takeWhile (· != ')')
      if b3 = 0 then none
      else if rest.head? = some '(' && (rest.drop (1 + inner.length)).head? = some ')' then
        some (inner, before + inner.length + 2)
      else
        let g := countWhile (fun c => c != '#' && c != '\n') rest
        if g ≥ 1 then some (rest.take g, before + g)
        else if b3 ≥ 2 then some ((r.drop (b3 - 1)).take 1, before)
        else none
    else none
  else none

/-- `def` (after an optional `async`) and a name, then an opening parenthesis. -/
def defAt (cs : List Char) : Option (List Char × Nat) :=
  let lead := countWhile isInlineBlank cs
  let r := cs.drop lead
  let a := if "async".toList.isPrefixOf r then countWhile isInlineBlank (r.drop 5) else 0
  let lead := if a ≥ 1 then lead + 5 + a else lead
  let r := cs.drop lead
  if "def".toList.isPrefixOf r then
    let r := r.drop 3
    let b := countWhile isInlineBlank r
    let r := r.drop b
    let name := identAt r
    let r := r.drop name.length
    let b' := countWhile isInlineBlank r
    if b ≥ 1 && !name.isEmpty && (r.drop b').head? = some '(' then
      some (name, lead + 3 + b + name.length + b' + 1)
    else none
  else none

/-- `class` and a name. -/
def classAt (cs : List Char) : Option (List Char × Nat) :=
  let lead := countWhile isInlineBlank cs
  let r := cs.drop lead
  if "class".toList.isPrefixOf r then
    let r := r.drop 5
    let b := countWhile isInlineBlank r
    let r := r.drop b
    let name := identAt r
    if b ≥ 1 && !name.isEmpty then some (name, lead + 5 + b + name.length)
    else none
  else none

/-- Drops every trailing occurrence of a character. -/
def dropTrailing (x : Char) (cs : List Char) : List Char :=
  (cs.reverse.dropWhile (· == x)).reverse

/-- The items of an import list: split at commas, trimmed, stripped of trailing backslashes
and trimmed again; empty items are skipped. -/
def importItems (list : List Char) : List (List Char) :=
  ((list.splitOn ',').map fun it => trim (dropTrailing '\\' (trim it))).filter
    fun it => !it.isEmpty

/-- The name an import item binds: the alias after `as`, else the first word, which for a
plain `import` is cut at its first dot. -/
def boundName (item : List Char) (rootOfDotted : Bool) : List Char :=
  match words item with
  | _ :: kw :: name :: _ =>
    if kw == "as".toList then name
    else if rootOfDotted then (words item).headD [] |>.takeWhile (· != '.')
    else (words item).headD []
  | target :: _ => if rootOfDotted then target.takeWhile (· != '.') else target
  | [] => []

/-- The names bound by the imports of a script: those of every `import` line first, then those
of every `from` line, in the order they appear, repeats kept; a star binds nothing. -/
def collectImports (src : String) : List String :=
  let cs := src.toList
  let plain := (matchesAtLineStarts importAt cs).flatMap fun list =>
    (importItems list).map (boundName · true) |>.filter fun n => !n.isEmpty
  let fromNames := (matchesAtLineStarts fromAt cs).flatMap fun list =>
    (importItems list).map (boundName · false) |>.filter fun n => !n.isEmpty && n != ['*']
  (plain ++ fromNames).map String.ofList

/-- The names of the functions, then of the classes, that a script defines. -/
def collectFunctions (src : String) : List String :=
  let cs := src.toList
  (matchesAtLineStarts defAt cs ++ matchesAtLineStarts classAt cs).map String.ofList

end MixedScript.Scope
