import MixedScript.CommandLine.Similarity
import MixedScript.Path

/-!
# The command line

`calligraphy [OPTIONS] <SCRIPT> [ARGS]...`: the flags come before the script, `-` is standard
input, and everything after the script or after `--` is handed to it. Errors carry a kind and
a usage line, with the most similar known flag for a mistyped long one.
-/

namespace MixedScript.CommandLine

/-- The flags. -/
inductive Flag where
  | explain
  | intermediate
  | verbose
  | help
  | version
deriving DecidableEq, Repr

namespace Flag

/-- The flags in the order they are declared. -/
def all : List Flag := [.explain, .intermediate, .verbose, .help, .version]

/-- The long name. -/
def long : Flag → String
  | .explain => "explain"
  | .intermediate => "intermediate"
  | .verbose => "verbose"
  | .help => "help"
  | .version => "version"

/-- The short name. -/
def short : Flag → Char
  | .explain => 'e'
  | .intermediate => 'i'
  | .verbose => 'v'
  | .help => 'h'
  | .version => 'V'

/-- The flag of a long name. -/
def ofLong? (s : String) : Option Flag :=
  all.find? (·.long == s)

/-- The flag of a short name. -/
def ofShort? (c : Char) : Option Flag :=
  all.find? (·.short == c)

/-- How the flag is written in messages. -/
def display (f : Flag) : String :=
  "--" ++ f.long

/-- How the flag is written in a usage line or when its value is refused; a counted flag may
repeat. -/
def usage (f : Flag) : String :=
  if f == .verbose then "--verbose..." else f.display

/-- Whether the flag belongs to the command's group of arguments, as the flags that choose
what to do do; help and version stand apart. -/
def inGroup (f : Flag) : Bool :=
  f != .help && f != .version

end Flag

/-- What a caller can do about a command line that does not parse. -/
inductive ErrorKind where
  | argumentConflict
  | missingRequiredArgument
  | unknownArgument
  | tooManyValues
  | displayHelp
  | displayVersion
deriving DecidableEq, Repr

/-- A command line that does not parse, or asks for help or the version. -/
structure ArgError where
  kind : ErrorKind
  message : String
deriving DecidableEq, Repr

/-- The help text. -/
def helpText : String :=
  "Run scripts that mix Python and shell\n\n" ++
  "Usage: calligraphy [OPTIONS] <SCRIPT> [ARGS]...\n\n" ++
  "Arguments:\n" ++
  "  <SCRIPT>   Script file, or \x60-\x60 to read from stdin\n" ++
  "  [ARGS]...  Arguments passed to the script\n\n" ++
  "Options:\n" ++
  "  -e, --explain       Show how each line was classified instead of running\n" ++
  "  -i, --intermediate  Print the compiled Python instead of running it\n" ++
  "  -v, --verbose...    Increase log verbosity (-v, -vv, -vvv)\n" ++
  "  -h, --help          Print help\n" ++
  "  -V, --version       Print version\n"

/-- The version text. -/
def versionText : String := "calligraphy 0.1.0\n"

/-- The usage line: the full form when no argument was given, else the flags given so far.
Arguments of the script that were given are shown as required. -/
def usageLine (given : Option (List Flag)) (argsGiven : Bool) : String :=
  match given with
  | none => "Usage: calligraphy [OPTIONS] <SCRIPT> [ARGS]..."
  | some fs => "Usage: calligraphy" ++ String.join (fs.map (" " ++ ·.usage)) ++ " <SCRIPT> " ++
      (if argsGiven then "<ARGS>..." else "[ARGS]...")

/-- The command's group of arguments as a usage line shows it: its flags, the script and the
arguments of the script, as alternatives. -/
def groupUsage : String :=
  "<" ++ "|".intercalate ((Flag.all.filter Flag.inGroup).map Flag.usage ++ ["SCRIPT", "ARGS"]) ++
    ">"

/-- An error text: the complaint, what follows it, and the pointer to the help. -/
def errorText (complaint : String) (body : String) : String :=
  "error: " ++ complaint ++ "\n\n" ++ body ++ "\n\nFor more information, try '--help'.\n"

/-- The usage line for the flags given, the full form when there are none. -/
def usageFor (given : List Flag) : String :=
  usageLine (if given.isEmpty then none else some given) false

/-- The known long name most similar to a mistyped one, if any is similar enough: the one of
highest similarity above 0.7, the later one on a tie. -/
def suggest (name : String) : Option Flag :=
  Flag.all.foldl (fun best f =>
    let score := jaro name.toList f.long.toList
    if score > 0.7 then
      match best with
      | some (_, s) => if score ≥ s then some (f, score) else best
      | none => some (f, score)
    else best) (none : Option (Flag × Float)) |>.map (·.1)

/-- A mistyped long flag. -/
def unknownLong (name : String) (given : List Flag) : ArgError :=
  let arg := "--" ++ name
  let hint := suggest name
  let given := match hint with
    | some f => if given.contains f then given else given ++ [f]
    | none => given
  let tips := (match hint with
      | some f => "  tip: a similar argument exists: '" ++ f.display ++ "'\n"
      | none => "") ++
    "  tip: to pass '" ++ arg ++ "' as a value, use '-- " ++ arg ++ "'"
  ⟨.unknownArgument, errorText ("unexpected argument '" ++ arg ++ "' found") (tips ++ "\n\n" ++ usageFor given)⟩

/-- An unknown short flag. -/
def unknownShort (c : Char) : ArgError :=
  let arg := "-" ++ c.toString
  ⟨.unknownArgument, errorText ("unexpected argument '" ++ arg ++ "' found")
    ("  tip: to pass '" ++ arg ++ "' as a value, use '-- " ++ arg ++ "'\n\n" ++ usageLine none false)⟩

/-- What the command line asks for. -/
structure Invocation where
  explain : Bool := false
  intermediate : Bool := false
  verbose : Nat := 0
  script : Option String := none
  args : List String := []
  /-- The flags given, in the order they were last given. -/
  given : List Flag := []
  /-- Whether every further argument is a value. -/
  trailing : Bool := false
deriving Repr

namespace Invocation

/-- Takes a value: the script first, then arguments of the script. -/
def addValue (inv : Invocation) (v : String) : Invocation :=
  match inv.script with
  | none => { inv with script := some v }
  | some _ => { inv with args := inv.args ++ [v], trailing := true }

/-- Applies a flag. A switch may be given once; the count of `-v` stops at 255. -/
def apply (inv : Invocation) (f : Flag) : Except ArgError Invocation :=
  match f with
  | .explain =>
    if inv.explain then throw (twice f)
    else pure { inv with explain := true, given := inv.given ++ [f] }
  | .intermediate =>
    if inv.intermediate then throw (twice f)
    else pure { inv with intermediate := true, given := inv.given ++ [f] }
  | .verbose =>
    pure { inv with verbose := min 255 (inv.verbose + 1),
                    given := inv.given.filter (· != f) ++ [f] }
  | .help => throw ⟨.displayHelp, helpText⟩
  | .version => throw ⟨.displayVersion, versionText⟩
where
  twice (f : Flag) : ArgError :=
    ⟨.argumentConflict, errorText ("the argument '" ++ f.display ++ "' cannot be used multiple times")
      (usageLine none false)⟩

/-- Applies grouped short flags in order. -/
def applyShorts (inv : Invocation) : List Char → Except ArgError Invocation
  | [] => pure inv
  | c :: rest =>
    match Flag.ofShort? c with
    | some f => do applyShorts (← inv.apply f) rest
    | none => throw (unknownShort c)

/-- The usage line when a value given to flag `f` is refused. Before any flag of the group, it
names `f`; after one, the group stands for all of its members and only a flag outside it is
named. The script alone does not bring in the group. -/
def valueUsage (inv : Invocation) (f : Flag) : String :=
  if inv.given.isEmpty then usageFor [f]
  else "Usage: calligraphy" ++ (if f.inGroup then "" else " " ++ f.display) ++ " " ++ groupUsage

/-- Reads one argument. -/
def step (inv : Invocation) (arg : String) : Except ArgError Invocation :=
  let cs := arg.toList
  if inv.trailing then pure (inv.addValue arg)
  else if arg == "--" then pure { inv with trailing := true }
  else match cs with
    | '-' :: '-' :: rest =>
      let name := String.ofList (rest.takeWhile (· != '='))
      let value := if rest.contains '=' then some (String.ofList ((rest.dropWhile (· != '=')).drop 1)) else none
      match Flag.ofLong? name, value with
      | some f, some v =>
        throw ⟨.tooManyValues, errorText
          ("unexpected value '" ++ v ++ "' for '" ++ f.usage ++ "' found; no more were expected")
          (inv.valueUsage f)⟩
      | some f, none => inv.apply f
      | none, _ => if inv.script.isSome then pure (inv.addValue arg) else throw (unknownLong name inv.given)
    | '-' :: c :: rest =>
      if inv.script.isSome && (c :: rest).any (fun c => (Flag.ofShort? c).isNone) then
        pure (inv.addValue arg)
      else inv.applyShorts (c :: rest)
    | _ => pure (inv.addValue arg)

/-- Checks the whole command line: the two modes exclude each other, and a script is needed. -/
def finish (inv : Invocation) : Except ArgError Invocation :=
  let firstMode := inv.given.find? fun f => f == .explain || f == .intermediate
  match firstMode with
  | some f =>
    let other := if f == .explain then Flag.intermediate else .explain
    if inv.explain && inv.intermediate then
      throw ⟨.argumentConflict, errorText
        ("the argument '" ++ f.display ++ "' cannot be used with '" ++ other.display ++ "'")
        (usageLine (some (inv.given.filter (· != other))) !inv.args.isEmpty)⟩
    else check
  | none => check
where
  check : Except ArgError Invocation :=
    if inv.script.isNone then
      throw ⟨.missingRequiredArgument, errorText
        "the following required arguments were not provided:\n  <SCRIPT>"
        (usageLine (some inv.given) false)⟩
    else pure inv

end Invocation

/-- What to do with the script. -/
inductive Mode where
  | run
  | explain
  | intermediate
deriving DecidableEq, Repr

/-- A parsed command line. -/
structure Command where
  explain : Bool
  intermediate : Bool
  verbose : Nat
  script : String
  args : List String
deriving DecidableEq, Repr

/-- Parses the arguments after the program name. -/
def parse (argv : List String) : Except ArgError Command := do
  let inv ← argv.foldlM Invocation.step {}
  let inv ← inv.finish
  pure ⟨inv.explain, inv.intermediate, inv.verbose, inv.script.getD "", inv.args⟩

namespace Command

/-- Explaining wins over printing the compiled program, which wins over running. -/
def mode (c : Command) : Mode :=
  if c.explain then .explain else if c.intermediate then .intermediate else .run

/-- Whether the script is read from standard input. -/
def fromStdin (c : Command) : Bool :=
  c.script == "-"

/-- The logging level for the count of `-v`. -/
def logFilter (c : Command) : String :=
  match c.verbose with
  | 0 => "warn"
  | 1 => "info"
  | 2 => "debug"
  | _ => "trace"

/-- The directory against which directives resolve: the script's directory, or `.` for
standard input and for a script without one. -/
def baseDir (c : Command) : Path :=
  if c.fromStdin then ⟨"."⟩
  else
    match (Path.mk c.script).parent? with
    | some p => if p.text.isEmpty then ⟨"."⟩ else p
    | none => ⟨"."⟩

end Command

end MixedScript.CommandLine
