import MixedScript.Layout.Marker
import MixedScript.Layout.Span

/-!
# Laying out a script

`Layout.ofSource` reads a script one character at a time, tracking quotes, comments, escapes
and open brackets. A newline after a backslash, inside a bracket or inside a double-quoted
string is soft and becomes the marker; any other ends the statement. It records the inline
substitutions and the closers that no opener matches.
-/

namespace MixedScript

open MixedScript.Text MixedScript.Layout

/-- The lexical context of the reader. -/
inductive ScanMode where
  | code
  | single
  | double
  | comment
deriving DecidableEq, Repr

/-- The reader's state between two characters. The open substitution, if any, is always the
last one opened, so it is kept apart from the finished ones together with the paren depth
before its own `(`. -/
structure Scanner where
  mode : ScanMode := .code
  escaped : Bool := false
  parens : Nat := 0
  braces : Nat := 0
  brackets : Nat := 0
  line : Nat := 0
  column : Nat := 0
  hasContent : Bool := false
  prev : Option Char := none
  pending : Option (Span × Nat) := none
  text : String := ""
  spans : Array Span := #[]
  unmatched : Array Unmatched := #[]

namespace Scanner

/-- Records a closer met at depth zero. -/
def unmatchedAt (s : Scanner) (ch : Char) : Scanner :=
  { s with unmatched := s.unmatched.push ⟨s.line, s.column, ch⟩ }

/-- After a `)`: the open substitution ends here when the paren depth is back to where it
was before the substitution's own `(`. -/
def finishSpan (s : Scanner) : Scanner :=
  match s.pending with
  | some (sp, depth) =>
    if s.parens = depth then
      { s with pending := none, spans := s.spans.push { sp with stop := some (s.column + 1) } }
    else s
  | none => s

/-- Opens a substitution at the current column unless one is open already. -/
def openSpan (s : Scanner) (kind : SubstKind) : Scanner :=
  match s.pending with
  | some _ => s
  | none => { s with pending := some (⟨s.line, s.column, none, kind⟩, s.parens) }

/-- A character of code that no backslash escapes; `next` is the character after it. -/
def code (s : Scanner) (ch : Char) (next : Option Char) : Scanner :=
  match ch with
  | '\\' => { s with escaped := true }
  | '\'' => { s with mode := .single }
  | '"' => { s with mode := .double }
  | '#' => if s.prev.all isBlank then { s with mode := .comment } else s
  | '(' => { s with parens := s.parens + 1 }
  | '{' => { s with braces := s.braces + 1 }
  | '[' => { s with brackets := s.brackets + 1 }
  | ')' => if s.parens = 0 then s.unmatchedAt ch else { s with parens := s.parens - 1 }.finishSpan
  | '}' => if s.braces = 0 then s.unmatchedAt ch else { s with braces := s.braces - 1 }
  | ']' => if s.brackets = 0 then s.unmatchedAt ch else { s with brackets := s.brackets - 1 }
  | _ =>
    match SubstKind.ofPrefix? ch, next with
    | some kind, some '(' => s.openSpan kind
    | _, _ => s

/-- Whether a newline read now is soft. -/
def softBreak (s : Scanner) (escaped : Bool) : Bool :=
  escaped || s.parens != 0 || s.braces != 0 || s.brackets != 0 || s.mode == .double

/-- A newline: a comment ends; a soft newline becomes the marker and one column, a hard one
ends the logical line (which counts only if it held a character that is not blank). -/
def newline (s : Scanner) (escaped : Bool) : Scanner :=
  let s := if s.mode = .comment then { s with mode := .code } else s
  if s.softBreak escaped then
    { s with text := s.text ++ marker, column := s.column + 1, prev := some '\n' }
  else
    { s with mode := .code, text := s.text.push '\n',
             line := if s.hasContent then s.line + 1 else s.line,
             column := 0, hasContent := false, prev := some '\n' }

/-- One character other than a newline, in the current mode. -/
def inMode (s : Scanner) (escaped : Bool) (ch : Char) (next : Option Char) : Scanner :=
  match s.mode with
  | .comment => s
  | .single =>
    if escaped then s
    else if ch = '\\' then { s with escaped := true }
    else if ch = '\'' then { s with mode := .code }
    else s
  | .double =>
    if escaped then s
    else if ch = '\\' then { s with escaped := true }
    else if ch = '"' then { s with mode := .code }
    else s
  | .code => if escaped then s else s.code ch next

/-- Reads one character; `next` is the character after it. -/
def step (s : Scanner) (ch : Char) (next : Option Char) : Scanner :=
  let escaped := s.escaped
  let s := { s with escaped := false }
  if ch = '\n' then s.newline escaped
  else
    let s := s.inMode escaped ch next
    { s with text := s.text.push ch, column := s.column + 1,
             hasContent := s.hasContent || !isBlank ch, prev := some ch }

/-- Reads a list of characters. -/
def run (s : Scanner) : List Char → Scanner
  | [] => s
  | c :: rest => (s.step c rest.head?).run rest

@[simp] theorem run_nil (s : Scanner) : s.run [] = s := rfl

@[simp] theorem run_cons (s : Scanner) (c : Char) (rest : List Char) :
    s.run (c :: rest) = (s.step c rest.head?).run rest := rfl

/-- The spans found, in the order they were opened; an open one comes last. -/
def allSpans (s : Scanner) : List Span :=
  match s.pending with
  | some (sp, _) => (s.spans.push sp).toList
  | none => s.spans.toList

end Scanner

/-- A laid-out script: its text with soft breaks replaced by the marker, its inline
substitutions in the order they open, and its unmatched closers. -/
structure Layout where
  text : String
  spans : List Span
  unmatched : List Unmatched
deriving Repr

namespace Layout

/-- Lays out a script. -/
def ofSource (src : String) : Layout :=
  let s := Scanner.run {} src.toList
  { text := s.text, spans := s.allSpans, unmatched := s.unmatched.toList }

/-- The statements of the layout. -/
def lines (l : Layout) : List String :=
  logicalLines l.text

/-- The first substitution whose closing parenthesis is missing. -/
def unterminated? (l : Layout) : Option Span :=
  l.spans.find? fun s => !s.terminated

/-- The substitutions on one logical line. -/
def spansOn (spans : List Span) (line : Nat) : List Span :=
  spans.filter fun s => s.line == line

end Layout

end MixedScript
