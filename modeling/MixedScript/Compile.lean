import MixedScript.Directive
import MixedScript.FileTree
import MixedScript.Line.Classify
import MixedScript.Target.Preamble
import MixedScript.Target.Program

/-!
# Compiling scripts

A script is laid out, its directives are expanded, its statements are classified and the host
program is emitted. Expanding a directive compiles the sourced script and writes its artifact;
the line becomes a call of the runtime's `source`. The scripts being compiled form a stack:
sourcing one already on it is a cycle, and sourcing deeper than the limit stops.
-/

namespace MixedScript

open MixedScript.Layout MixedScript.Target

/-- A computation that reads and writes the file tree and may stop with an error. -/
abbrev CompileM := StateT FileTree (Except CompileError)

namespace Compile

/-- The default limit on how deeply sourced scripts may nest. -/
def defaultMaxDepth : Nat := 32

/-- Writes an artifact. -/
def writeArtifact (artifact : Path) (text : String) : CompileM Unit := do
  match (← get).write artifact text with
  | .ok fs => set fs
  | .error e => throw (.io artifact e)

/-- The canonical location of a script that is about to be compiled; a script already on the
stack closes a cycle. -/
def enter (stack : List Location) (p : Path) : CompileM Location := do
  match (← get).canonicalize p with
  | .error e => throw (.io p e)
  | .ok loc =>
    if stack.contains loc then throw (.cyclic ((stack ++ [loc]).map FileTree.pathOf))
    else pure loc

/-- The text of a script at its canonical location; errors name the path as given. -/
def readScript (loc : Location) (p : Path) : CompileM String := do
  match (← get).read loc with
  | .ok t => pure t
  | .error e => throw (.io p e)

/-- The directory in which a script's directives are resolved. -/
def baseOf (loc : Location) : Path :=
  if loc.isEmpty then ⟨""⟩ else FileTree.pathOf loc.dropLast

/-- The line that replaces a directive. -/
def sourceCall (d : Directive) (artifact : Path) : String :=
  d.indent ++ "source(" ++ quoteDouble artifact.text ++ ", " ++ quoteDouble d.boundName ++ ")"

/-- Expands the directives among lines, in order; `load` compiles a sourced script. Gives the
lines and the bound names. -/
def expandLines (load : Path → CompileM String) (base : Path) :
    List String → CompileM (List String × List String)
  | [] => pure ([], [])
  | line :: rest => do
    match Directive.parse? line with
    | none =>
      let (ls, ns) ← expandLines load base rest
      pure (line :: ls, ns)
    | some d =>
      let script := base.join ⟨d.path⟩
      let body ← load script
      let artifact := artifactPath script
      writeArtifact artifact (importPreamble ++ "\n\n" ++ body)
      let (ls, ns) ← expandLines load base rest
      pure (sourceCall d artifact :: ls, d.boundName :: ns)

/-- The classified and emitted program of a script whose directives are expanded. -/
def emit (src : String) (l : Layout) (expanded : List String) (bound : List String) :
    Except CompileError String :=
  let sc := bound.foldl (fun s n => { s with imports := s.imports.insert n }) (Scope.ofSource src)
  let stmts := logicalLines ("\n".intercalate expanded)
  let (classes, _) := Line.classifyAll stmts l.spans sc
  transpile stmts classes l.spans

/-- Compiles script text whose directives resolve against `base`; `load` compiles a sourced
script. -/
def compileWith (load : Path → CompileM String) (src : String) (base : Path) :
    CompileM String := do
  let l := Layout.ofSource src
  let (expanded, bound) ← expandLines load base ((l.text.toList.splitOn '\n').map String.ofList)
  match emit src l expanded bound with
  | .ok out => pure out
  | .error e => throw e

/-- Compiles script text; directives resolve against `base`. `room` is how many more levels of
sourcing the limit `maxDepth` allows, and `stack` holds the scripts being compiled. -/
def compileText (maxDepth : Nat) : Nat → List Location → String → Path → CompileM String
  | room, stack, src, base =>
    compileWith (fun script =>
      match room with
      | 0 => throw (.depthExceeded maxDepth script)
      | r + 1 => do
        let loc ← enter stack script
        let text ← readScript loc script
        compileText maxDepth r (stack ++ [loc]) text (baseOf loc)) src base

/-- Splits an artifact into whether it starts with the sourced preamble and a blank line, and
the rest. -/
def splitArtifact (text : String) : Bool × String :=
  let pre := (importPreamble ++ "\n\n").toList
  let cs := text.toList
  if pre.isPrefixOf cs then (true, String.ofList (cs.drop pre.length)) else (false, text)

end Compile

/-- How a compile is asked for. -/
inductive CompileRequest where
  /-- Script text whose directives resolve against a directory. -/
  | text (src : String) (base : Path)
  /-- The script in a file. -/
  | file (path : Path)
  /-- Script text read from a file, which goes on the stack. -/
  | source (src : String) (path : Path)

/-- What a compiler keeps between the scripts it compiles: the limit on nesting, the canonical
locations of the scripts being compiled, outermost first, and how many of them were reached
through a directive. -/
structure Compiler where
  maxImportDepth : Nat
  stack : List Location
  depth : Nat
deriving Repr, DecidableEq

namespace Compiler

/-- A compiler with a nesting limit that is compiling nothing. -/
def withMaxImportDepth (maxImportDepth : Nat) : Compiler := ⟨maxImportDepth, [], 0⟩

/-- A compiler with the default nesting limit. -/
def new : Compiler := withMaxImportDepth Compile.defaultMaxDepth

/-- How many more levels of sourcing the limit leaves. -/
def room (c : Compiler) : Nat := c.maxImportDepth - c.depth

/-- Puts a script on the stack. -/
def push (c : Compiler) (loc : Location) : Compiler := { c with stack := c.stack ++ [loc] }

/-- Takes the last script off the stack. -/
def pop (c : Compiler) : Compiler := { c with stack := c.stack.dropLast }

/-- Goes one level of sourcing deeper. -/
def descend (c : Compiler) : Compiler := { c with depth := c.depth + 1 }

/-- Comes back one level of sourcing. -/
def ascend (c : Compiler) : Compiler := { c with depth := c.depth - 1 }

end Compiler

/-- A step of a compiler session. It reads and changes the compiler and the file tree; when it
stops with an error, both stay as the error found them. -/
abbrev SessionM := EStateM CompileError (Compiler × FileTree)

namespace Session

/-- The compiler as it stands. -/
def compiler : SessionM Compiler := do
  return (← get).1

/-- Changes the compiler. -/
def modifyCompiler (f : Compiler → Compiler) : SessionM Unit :=
  modify fun s => (f s.1, s.2)

/-- Runs a step on the file tree; when the step fails, the tree is as it was. -/
def onTree {α : Type} (x : CompileM α) : SessionM α := fun s =>
  match x s.2 with
  | .ok (a, fs) => .ok a (s.1, fs)
  | .error e => .error e s

/-- The canonical location of a script about to be compiled, unless it is on the stack. -/
def enter (p : Path) : SessionM Location := do
  onTree (Compile.enter (← compiler).stack p)

/-- Expands the directives among lines, in order; `load` compiles a sourced script. Gives the
lines and the bound names. -/
def expand (load : Path → SessionM String) (base : Path) :
    List String → SessionM (List String × List String)
  | [] => pure ([], [])
  | line :: rest => do
    match Directive.parse? line with
    | none =>
      let (ls, ns) ← expand load base rest
      pure (line :: ls, ns)
    | some d =>
      let script := base.join ⟨d.path⟩
      let body ← load script
      let artifact := artifactPath script
      onTree (Compile.writeArtifact artifact (importPreamble ++ "\n\n" ++ body))
      let (ls, ns) ← expand load base rest
      pure (Compile.sourceCall d artifact :: ls, d.boundName :: ns)

/-- Compiles script text whose directives resolve against `base`; `load` compiles a sourced
script. -/
def compileStrWith (load : Path → SessionM String) (src : String) (base : Path) :
    SessionM String := do
  let l := Layout.ofSource src
  let (expanded, bound) ← expand load base ((l.text.toList.splitOn '\n').map String.ofList)
  match Compile.emit src l expanded bound with
  | .ok out => pure out
  | .error e => throw e

/-- Compiles the text of the script at `loc` with `loc` on the stack, and takes it off again
whatever the outcome; `compileScript` compiles the text against the script's directory. -/
def compileAt (compileScript : String → Path → SessionM String) (loc : Location)
    (src : String) : SessionM String := do
  modifyCompiler (·.push loc)
  let result ← observing (compileScript src (Compile.baseOf loc))
  modifyCompiler Compiler.pop
  MonadExcept.ofExcept result

/-- Compiles the script at a path. -/
def compilePath (compileScript : String → Path → SessionM String) (p : Path) :
    SessionM String := do
  let loc ← enter p
  let src ← onTree (Compile.readScript loc p)
  compileAt compileScript loc src

/-- Compiles a sourced script one level deeper, unless the limit is reached, and comes back to
the level it started from whatever the outcome. -/
def importWith (compileScript : String → Path → SessionM String) (script : Path) :
    SessionM String := do
  let c ← compiler
  if c.maxImportDepth ≤ c.depth then throw (.depthExceeded c.maxImportDepth script)
  modifyCompiler Compiler.descend
  let result ← observing (compilePath compileScript script)
  modifyCompiler Compiler.ascend
  MonadExcept.ofExcept result

/-- Compiles a sourced script when `room` more levels are left below the current one; with none
left, the compiler is at its limit. -/
def compileImport : Nat → Path → SessionM String
  | 0, script => do throw (.depthExceeded (← compiler).maxImportDepth script)
  | room + 1, script => importWith (compileStrWith (compileImport room)) script

/-- Compiles script text whose directives resolve against `base`. -/
def compileStr (src : String) (base : Path) : SessionM String := do
  compileStrWith (compileImport (← compiler).room) src base

/-- Compiles the script at a path. -/
def compileFile (p : Path) : SessionM String := do
  compilePath (compileStrWith (compileImport (← compiler).room)) p

/-- Compiles text read from the script at a path, which goes on the stack. -/
def compileSource (src : String) (p : Path) : SessionM String := do
  let loc ← enter p
  compileAt (compileStrWith (compileImport (← compiler).room)) loc src

/-- Runs a request in a session. -/
def run : CompileRequest → SessionM String
  | .text src base => compileStr src base
  | .file p => compileFile p
  | .source src p => compileSource src p

end Session

/-- Runs a compile with a nesting limit on a file tree, with a fresh compiler. -/
def compile (maxDepth : Nat) (req : CompileRequest) : CompileM String := fun fs =>
  match Session.run req (Compiler.withMaxImportDepth maxDepth, fs) with
  | .ok out (_, fs') => .ok (out, fs')
  | .error e _ => .error e

end MixedScript
