/-!
# Inline substitutions and unmatched closers

An inline substitution is a shell command written inside a statement as `$(…)`, `?(…)` or
`!(…)`. The layout records where each one opens and closes, in columns of its logical line,
and it records every closing bracket that no opener matches.
-/

namespace MixedScript

/-- How an inline substitution is written: `$(…)`, `?(…)` (output not echoed) or `!(…)`. -/
inductive SubstKind where
  | dollar
  | quiet
  | bang
deriving DecidableEq, Repr

namespace SubstKind

/-- The kind that a prefix character opens. -/
def ofPrefix? : Char → Option SubstKind
  | '$' => some .dollar
  | '?' => some .quiet
  | '!' => some .bang
  | _ => none

/-- The prefix character of a kind. -/
def prefixChar : SubstKind → Char
  | .dollar => '$'
  | .quiet => '?'
  | .bang => '!'

/-- Only `?(…)` keeps the command's output off the terminal. -/
def silent : SubstKind → Bool
  | .quiet => true
  | _ => false

theorem ofPrefix?_prefixChar (k : SubstKind) : ofPrefix? k.prefixChar = some k := by
  cases k <;> rfl

end SubstKind

/-- Where an inline substitution lies: the index of its logical line, the column of its prefix
character and the column just past its closing parenthesis, if the text has one. -/
structure Span where
  line : Nat
  start : Nat
  stop : Option Nat
  kind : SubstKind
deriving DecidableEq, Repr

/-- A span is terminated when its closing parenthesis was found. -/
def Span.terminated (s : Span) : Bool :=
  s.stop.isSome

/-- A closing bracket met at depth zero, at a column of a logical line. -/
structure Unmatched where
  line : Nat
  column : Nat
  closer : Char
deriving DecidableEq, Repr

/-- The finding as a reader sees it; lines are counted from one here. -/
def Unmatched.message (d : Unmatched) : String :=
  "line " ++ toString (d.line + 1) ++ ": unmatched '" ++ d.closer.toString ++ "' at column " ++
    toString d.column

end MixedScript
