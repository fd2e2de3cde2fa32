import MixedScript.Layout.Scan
import MixedScript.Line.Class
import MixedScript.Line.Parts
import MixedScript.Scope.Basic

/-!
# Classifying statements

A statement is a comment, host code (blended when it holds a substitution), a directive or a
shell command, judged by its first part and the scope. Assignments add their targets to the
scope, which carries over to the next statement.
-/

namespace MixedScript.Line

open MixedScript.Text MixedScript.Layout MixedScript.Scope

/-- The keywords of the host language. -/
def hostKeywords : List String :=
  ["False", "None", "True", "and", "as", "assert", "async", "await", "break", "class",
   "continue", "def", "del", "elif", "else", "except", "finally", "for", "from", "global",
   "if", "import", "in", "is", "lambda", "nonlocal", "not", "or", "pass", "raise", "return",
   "try", "while", "with", "yield"]

/-- The builtin functions of the host language; one starts host code only when called. -/
def hostBuiltins : List String :=
  ["abs", "all", "any", "ascii", "bin", "bool", "breakpoint", "bytearray", "bytes",
   "callable", "chr", "classmethod", "compile", "complex", "delattr", "dict", "dir",
   "divmod", "enumerate", "eval", "exec", "exit", "filter", "float", "format", "frozenset",
   "getattr", "globals", "hasattr", "hash", "help", "hex", "id", "input", "int",
   "isinstance", "issubclass", "iter", "len", "list", "locals", "map", "max", "memoryview",
   "min", "next", "object", "oct", "open", "ord", "pow", "print", "property", "quit",
   "range", "repr", "reversed", "round", "set", "setattr", "slice", "sorted",
   "staticmethod", "str", "sum", "super", "tuple", "type", "vars", "zip"]

/-- Whether the first part of a statement names host code: a decorator `@name`, a keyword, an
imported, defined or assigned name, or a builtin whose next part is a call. -/
def startsWithHostName (parts : List (List Char)) (sc : Scope) : Bool :=
  match parts with
  | [] => false
  | ('@' :: rest) :: _ =>
    match rest with
    | c :: _ => isAlphabetic c || c == '_'
    | [] => false
  | first :: more =>
    let name := String.ofList first
    hostKeywords.contains name || sc.variables.contains name || sc.imports.contains name ||
      sc.functions.contains name ||
      (hostBuiltins.contains name && more.head?.any fun p => p.head? == some '(')

/-- The character that stands for a masked substitution. -/
def placeholder : Char := '\uFFFC'

/-- The statement with each substitution replaced by the placeholder. A span whose start is
past the line, or before the end of the previous masked span, is skipped; an open span runs
to the end of the line. -/
def maskSpans (line : List Char) (spans : List Span) : List Char :=
  go 0 spans
where
  go (pos : Nat) : List Span → List Char
    | [] => line.drop pos
    | sp :: more =>
      match columnToIndex line sp.start with
      | none => go pos more
      | some start =>
        if start < pos then go pos more
        else
          let stop := ((sp.stop.bind (columnToIndex line)).getD line.length)
          (line.drop pos).take (start - pos) ++ placeholder :: go stop more

/-- An identifier: an ASCII letter or underscore, then word characters. -/
def isIdentifier : List Char → Bool
  | c :: rest => isIdentStart c && rest.all isWordChar
  | [] => false

/-- The names that the left side of an assignment binds: identifiers separated by commas,
with an optional trailing comma, optionally in one pair of parentheses, blanks anywhere
between them; `none` when the left side has another form. -/
def assignmentTargets (lhs : List Char) : Option (List (List Char)) :=
  let t := trim lhs
  let t := match t with
    | '(' :: r => r
    | _ => t
  let t := if t.getLast? == some ')' then t.dropLast else t
  let t := trim t
  let t := if t.getLast? == some ',' then t.dropLast else t
  let names := (t.splitOn ',').map trim
  if names.all isIdentifier then some names else none

/-- Whether a statement, without its indentation, is a `source` directive. -/
def isDirective (stripped : List Char) : Bool :=
  "source".toList.isPrefixOf stripped &&
    ((stripped.drop 6).head?.any fun c => isBlank c || c == '(')

/-- Whether a statement, without its indentation, is a comment. -/
def isCommentLine (stripped : List Char) : Bool :=
  stripped.isEmpty || stripped.head? == some '#' || "\"\"\"".toList.isPrefixOf stripped ||
    "'''".toList.isPrefixOf stripped

/-- Classifies one statement, given the substitutions on it, and returns the scope after it. -/
def classifyLine (line : String) (spans : List Span) (sc : Scope) : LineClass × Scope :=
  let cs := line.toList
  let stripped := trimStart cs
  let code := if spans.isEmpty then LineClass.host else .blended
  let other := if isDirective stripped then LineClass.directive else .shell
  if isCommentLine stripped then (.comment, sc)
  else if startsWithHostName (splitParts stripped) sc then (code, sc)
  else
    let masked := maskSpans cs spans
    if masked.contains '=' then
      let lhs := masked.takeWhile (· != '=')
      let rhs := (masked.dropWhile (· != '=')).drop 1
      match assignmentTargets lhs with
      | some names =>
        if (trim rhs).isEmpty then (other, sc)
        else (code, names.foldl (fun s n => s.assign (String.ofList n)) sc)
      | none => (other, sc)
    else (other, sc)

/-- Classifies the statements of a script in order, starting at statement `i`; each entry is a
class and the scope after it. -/
def classifyFrom (spans : List Span) : Nat → List String → Scope → List (LineClass × Scope)
  | _, [], _ => []
  | i, l :: ls, sc =>
    let r := classifyLine l (Layout.spansOn spans i) sc
    r :: classifyFrom spans (i + 1) ls r.2

/-- The classes of the statements of a script and the scope after the last one. -/
def classifyAll (lines : List String) (spans : List Span) (sc : Scope) : List LineClass × Scope :=
  let steps := classifyFrom spans 0 lines sc
  (steps.map (·.1), (steps.getLast?.map (·.2)).getD sc)

end MixedScript.Line
