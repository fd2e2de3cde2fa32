import MixedScript.Path
import MixedScript.Scope.Collect

/-!
# Source directives

A directive `source <path> [as <name>] [# comment]` names another script. The path is
relative, its directory segments are made of word characters, `.`, `~` and `-`, and its file
name is a stem of word characters and `-` (starting with an ASCII letter, digit, `_` or `-`),
one dot and an extension of word characters. Anything else after `source` is a shell command.
The sourced script is bound to the alias, or else to its stem.
-/

namespace MixedScript

open MixedScript.Text MixedScript.Scope

/-- A recognised directive: its indentation, its path as written, and its alias. -/
structure Directive where
  indent : String
  path : String
  alias? : Option String
deriving DecidableEq, Repr

namespace Directive

/-- A character of a directory segment. -/
def isSegmentChar (c : Char) : Bool :=
  isWordChar c || c == '.' || c == '~' || c == '-'

/-- A character that may start a file name. -/
def isNameStart (c : Char) : Bool :=
  c.isAlphanum || c == '_' || c == '-'

/-- A file name: a stem of word characters and dashes with an allowed first character, a dot
and an extension of word characters. -/
def isFileName (name : List Char) : Bool :=
  match name.splitOn '.' with
  | [c :: stem, ext] => isNameStart c && stem.all (fun c => isWordChar c || c == '-') &&
      !ext.isEmpty && ext.all isWordChar
  | _ => false

/-- A directive path: nonempty directory segments, each followed by `/`, then a file name. -/
def isScriptPath (path : List Char) : Bool :=
  match (path.splitOn '/').reverse with
  | name :: dirs => isFileName name && dirs.all fun d => !d.isEmpty && d.all isSegmentChar
  | [] => false

/-- What may follow the path: an optional `as <identifier>`, then an optional comment, each
after spaces or tabs, then spaces or tabs. A comment runs to the end of the text and holds no
newline. Gives the alias, if any; `none` for any other text. -/
def tail? (rest : List Char) : Option (Option (List Char)) :=
  let blanks := countWhile isInlineBlank rest
  let after := rest.drop blanks
  let isEnd (t : List Char) : Bool :=
    (t.all isInlineBlank) ||
      (countWhile isInlineBlank t ≥ 1 && (t.dropWhile isInlineBlank).head? == some '#' &&
        !t.contains '\n')
  let aliased : Option (List Char) :=
    if blanks ≥ 1 && "as".toList.isPrefixOf after then
      let r := after.drop 2
      let b := countWhile isInlineBlank r
      let name := identAt (r.drop b)
      if b ≥ 1 && !name.isEmpty && isEnd ((r.drop b).drop name.length) then some name else none
    else none
  match aliased with
  | some name => some (some name)
  | none => if isEnd rest then some none else none

/-- Reads a directive from one line of a laid-out script. -/
def parse? (line : String) : Option Directive :=
  let cs := line.toList
  let indent := cs.takeWhile isInlineBlank
  let r := cs.drop indent.length
  if "source".toList.isPrefixOf r then
    let r := r.drop 6
    let b := countWhile isInlineBlank r
    let r := r.drop b
    let path := r.takeWhile fun c => !isInlineBlank c
    if b ≥ 1 && isScriptPath path then
      (tail? (r.drop path.length)).map fun alias? =>
        ⟨String.ofList indent, String.ofList path, alias?.map String.ofList⟩
    else none
  else none

/-- The name the sourced script is bound to: the alias, or else the file name up to its first
dot. -/
def boundName (d : Directive) : String :=
  match d.alias? with
  | some a => a
  | none =>
    let file := (d.path.toList.splitOn '/').getLastD []
    String.ofList (file.takeWhile (· != '.'))

end Directive

/-- Where the compiled form of a script is written: beside it, hidden, with the extension
`py`. -/
def artifactPath (script : Path) : Path :=
  script.withFileName ("." ++ (script.fileStem?.getD "") ++ ".py")

/-- A double-quoted literal of the host language: backslash, quote and newline escaped. -/
def quoteDouble (s : String) : String :=
  "\"" ++ String.join (s.toList.map fun c =>
    match c with
    | '\\' => "\\\\"
    | '"' => "\\\""
    | '\n' => "\\n"
    | c => c.toString) ++ "\""

end MixedScript
