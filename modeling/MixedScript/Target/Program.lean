import MixedScript.Target.Statement

/-!
# The generated program

The statements are paired with their classes (the shorter list decides how many) and each is
emitted on a line of its own; soft breaks become newlines in the finished text. A substitution
that never closes, anywhere in the script, stops the compile before any statement is emitted.
-/

namespace MixedScript.Target

open MixedScript.Layout

/-- The emitted statements from number `i` on, each followed by a newline. -/
def emitFrom (spans : List Span) : Nat → List String → List LineClass →
    Except CompileError String
  | i, l :: ls, c :: cs => do
    let e ← emitLine spans i l c
    let rest ← emitFrom spans (i + 1) ls cs
    pure (e ++ "\n" ++ rest)
  | _, _, _ => pure ""

/-- The host program for classified statements. -/
def transpile (lines : List String) (classes : List LineClass) (spans : List Span) :
    Except CompileError String := do
  if let some sp := spans.find? fun s => !s.terminated then
    throw (.unterminated (sp.line + 1) sp.start)
  let body ← emitFrom spans 0 lines classes
  pure (restore body)

end MixedScript.Target
