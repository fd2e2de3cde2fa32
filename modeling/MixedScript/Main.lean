import MixedScript.CommandLine.Args
import MixedScript.Compile
import MixedScript.Config
import MixedScript.Explain

/-!
# The command-line program

Parses the command line, loads the settings, reads the script and explains it or prints the
compiled program. Sourced scripts are read from disk as the compile asks for them, and the
artifacts it produces are written back beside them.
-/

namespace MixedScript.Cli

/-- The text of a file, or nothing when it cannot be read. -/
def readText? (p : String) : IO (Option String) := do
  try
    let t ← IO.FS.readFile p
    pure (some t)
  catch _ => pure none

/-- The location of a path, read from the working directory when it is relative; `.` and `..`
are taken by their names. -/
def locate (cwd : String) (p : String) : Location :=
  let full := if p.startsWith "/" then p else cwd ++ "/" ++ p
  (full.splitOn "/").foldl (fun loc seg =>
    if seg == "" || seg == "." then loc
    else if seg == ".." then loc.dropLast
    else loc ++ [seg]) []

/-- Adds a file read from disk, with the directories above it. -/
def addFile (fs : FileTree) (loc : Location) (text : String) : FileTree :=
  (fs.makeDirs loc.dropLast).set loc (.file text)

/-- Compiles, reading each missing script from disk and trying again. -/
partial def compileFromDisk (cwd : String) (maxDepth : Nat) (req : CompileRequest)
    (fs : FileTree) : IO (Except CompileError (String × FileTree)) := do
  match (compile maxDepth req).run fs with
  | .error (.io p .notFound) =>
    let loc := locate cwd p.text
    match fs.find? loc with
    | some _ => pure (.error (.io p .notFound))
    | none =>
      match ← readText? (FileTree.pathOf loc).text with
      | some t => compileFromDisk cwd maxDepth req (addFile fs loc t)
      | none => pure (.error (.io p .notFound))
  | r => pure r

/-- The settings file: the one named by the environment, else `.calligraphyrc` here, else the
one in the user's configuration directory. -/
def findConfig : IO (Option String) := do
  if let some p ← IO.getEnv "CALLIGRAPHY_CONFIG" then
    if !p.isEmpty then return some p
  if (← readText? ".calligraphyrc").isSome then return some ".calligraphyrc"
  let dir ← match ← IO.getEnv "XDG_CONFIG_HOME" with
    | some d => pure (some d)
    | none => pure ((← IO.getEnv "HOME").map (· ++ "/.config"))
  match dir with
  | some d =>
    let p := d ++ "/calligraphy/calligraphyrc"
    if (← readText? p).isSome then return some p else return none
  | none => return none

/-- Loads the settings, reporting lines that cannot be applied. -/
def loadConfig : IO Config := do
  let mut config : Config := {}
  if let some path ← findConfig then
    match ← readText? path with
    | some text =>
      let (c, errs) := Config.load text
      for e in errs do
        IO.eprintln ("calligraphy: warning: " ++ path ++ ": " ++ e.display)
      config := c
    | none => IO.eprintln ("calligraphy: warning: " ++ path ++ ": cannot be read")
  if let some py ← IO.getEnv "CALLIGRAPHY_PYTHON" then
    if !py.isEmpty then config := { config with python := py }
  return config

/-- Writes back the files that a compile created or changed. -/
def writeBack (before after : FileTree) : IO Unit := do
  for (loc, e) in after.entries do
    match e with
    | .file t =>
      if before.find? loc != some (.file t) then
        IO.FS.writeFile (FileTree.pathOf loc).text t
    | .dir => pure ()

/-- Runs the program on its arguments and gives the exit code. -/
def run (argv : List String) : IO UInt32 := do
  match CommandLine.parse argv with
  | .error e =>
    if e.kind == .displayHelp || e.kind == .displayVersion then
      IO.print e.message
      return 0
    else
      IO.eprint e.message
      return 1
  | .ok cmd =>
    let config ← loadConfig
    let cwd := (← IO.currentDir).toString
    let source ← if cmd.fromStdin then (← IO.getStdin).readToEnd else
      match ← readText? cmd.script with
      | some t => pure t
      | none =>
        IO.eprintln ("calligraphy: reading " ++ cmd.script ++ ": cannot be read")
        return 1
    match cmd.mode with
    | .explain =>
      let tty ← (← IO.getStdout).isTty
      let style := if config.color.enabled tty then Style.ansi else Style.plain
      IO.print (explainSource source style)
      return 0
    | mode =>
      let req := if cmd.fromStdin then CompileRequest.text source cmd.baseDir
        else CompileRequest.source source ⟨cmd.script⟩
      let here := locate cwd "."
      let start : FileTree := { FileTree.empty with cwd := here }
      let fs := if cmd.fromStdin then start.makeDirs here
        else addFile (start.makeDirs here) (locate cwd cmd.script) source
      match ← compileFromDisk cwd config.maxImportDepth req fs with
      | .error e =>
        IO.eprintln ("calligraphy: " ++ e.message)
        return 1
      | .ok (body, fs') =>
        writeBack fs fs'
        let program := Target.program cmd.script cmd.args body
        if mode == .intermediate then
          IO.print program
          return 0
        else
          IO.eprintln "calligraphy: running scripts is not supported; use --intermediate to print the compiled program"
          return 1

end MixedScript.Cli

/-- The program's entry point. -/
def main (argv : List String) : IO UInt32 :=
  MixedScript.Cli.run argv
