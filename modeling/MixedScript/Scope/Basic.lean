import MixedScript.Scope.NameSet
import MixedScript.Scope.Collect

/-!
# What the classifier knows

A `Scope` holds the imported names, the defined functions and classes, and the variables
assigned so far. Imports and definitions are read from the whole script before the first
line is classified; variables grow line by line. The runtime's two proxy objects, `env` and
`options`, are variables from the start.
-/

namespace MixedScript

/-- The names that make a line start in the host language. -/
structure Scope where
  imports : NameSet
  functions : NameSet
  «variables» : NameSet
deriving DecidableEq, Repr

namespace Scope

/-- The objects that the runtime defines before the script runs. -/
def proxyNames : List String := ["env", "options"]

/-- Only the proxy objects are known. -/
def initial : Scope :=
  ⟨∅, ∅, NameSet.ofList proxyNames⟩

/-- The scope of a whole script before its first line. -/
def ofSource (src : String) : Scope :=
  { initial with
    imports := NameSet.ofList (collectImports src)
    functions := NameSet.ofList (collectFunctions src) }

/-- Adds every name of another scope. -/
def union (s t : Scope) : Scope :=
  ⟨s.imports.union t.imports, s.functions.union t.functions, s.variables.union t.variables⟩

/-- Records an assigned variable. -/
def assign (s : Scope) (x : String) : Scope :=
  { s with «variables» := s.variables.insert x }

end Scope

end MixedScript
