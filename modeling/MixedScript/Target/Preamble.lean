/-!
# The preamble of a generated program

Every generated program starts with the runtime preamble: it defines `shell`, `source`, the
`env` and `options` proxies and the exit status `RC`. One of its lines sets `sys.argv` from a
placeholder; a program fills in its script name and arguments there, written as single-quoted
literals, while a sourced script's preamble drops that line so that it keeps the arguments of
the program that sources it.
-/

namespace MixedScript.Target

/-- The lines of the preamble, as shipped. -/
def headerLines : List String := [
  "\"\"\"Runtime support for programs compiled by calligraphy.\"\"\"",
  "",
  "import base64",
  "import importlib.util",
  "import os",
  "import re",
  "import subprocess",
  "import sys",
  "import tempfile",
  "import traceback",
  "",
  "sys.argv = \"PROGRAM_ARGS\"",
  "",
  "RC = 0",
  "_SHELL = os.environ.get(\"CALLIGRAPHY_SHELL\", \"bash\")",
  "",
  "",
  "class ShellError(Exception):",
  "    \"\"\"A shell command exited with a non-zero status.\"\"\"",
  "",
  "    def __init__(self, cmd, rc):",
  "        super().__init__(f\"command exited with status \x7brc\x7d: \x7bcmd\x7d\")",
  "        self.cmd = cmd",
  "        self.rc = rc",
  "",
  "",
  "class Environment:",
  "    \"\"\"Attribute and key access to environment variables.\"\"\"",
  "",
  "    def __getattr__(self, name):",
  "        return os.environ.get(name)",
  "",
  "    def __setattr__(self, name, value):",
  "        self.set(name, value)",
  "",
  "    def get(self, name, default=None):",
  "        return os.environ.get(name, default)",
  "",
  "    def set(self, name, value):",
  "        if value is None:",
  "            os.environ.pop(name, None)",
  "        else:",
  "            os.environ[name] = str(value)",
  "",
  "",
  "class Options:",
  "    \"\"\"Shell options applied before every command.\"\"\"",
  "",
  "    _NAMES = (\"errexit\", \"nounset\", \"pipefail\", \"xtrace\")",
  "",
  "    def __init__(self):",
  "        object.__setattr__(self, \"_state\", \x7bname: False for name in self._NAMES\x7d)",
  "        self._state[\"pipefail\"] = True",
  "",
  "    def __getattr__(self, name):",
  "        try:",
  "            return self._state[name]",
  "        except KeyError:",
  "            raise AttributeError(name) from None",
  "",
  "    def __setattr__(self, name, value):",
  "        if name not in self._NAMES:",
  "            raise AttributeError(f\"unknown shell option: \x7bname\x7d\")",
  "        self._state[name] = bool(value)",
  "",
  "    def prefix(self):",
  "        return \"\".join(",
  "            f\"set -o \x7bname\x7d; \" for name in self._NAMES if self._state[name]",
  "        )",
  "",
  "",
  "env = Environment()",
  "options = Options()",
  "",
  "_PLACEHOLDER = re.compile(r\"(?<!\\$)\\\x7b(\\w+)\\\x7d\")",
  "",
  "",
  "def _format(cmd, values):",
  "    if not values:",
  "        return cmd",
  "",
  "    def lookup(match):",
  "        name = match.group(1)",
  "        if name in values:",
  "            return str(values[name])",
  "        return match.group(0)",
  "",
  "    return _PLACEHOLDER.sub(lookup, cmd)",
  "",
  "",
  "def _read_env(path):",
  "    with open(path, \"rb\") as handle:",
  "        data = handle.read()",
  "    result = \x7b\x7d",
  "    for entry in data.split(b\"\\0\"):",
  "        name, sep, value = entry.partition(b\"=\")",
  "        if sep:",
  "            result[name.decode(\"utf-8\", \"replace\")] = value.decode(\"utf-8\", \"replace\")",
  "    return result",
  "",
  "",
  "def shell(cmd, get_rc=False, get_stdout=False, silent=False, format_dict=None):",
  "    \"\"\"Run an encoded shell command and pull its cwd and environment back.\"\"\"",
  "    global RC",
  "    cmd = _format(base64.b64decode(cmd).decode(\"utf-8\"), format_dict)",
  "",
  "    with tempfile.TemporaryDirectory(prefix=\"calligraphy-\") as scratch:",
  "        cwd_file = os.path.join(scratch, \"cwd\")",
  "        env_file = os.path.join(scratch, \"env\")",
  "        trailer = (",
  "            \"trap '__calligraphy_rc=$?; pwd > \\\"%s\\\"; env -0 > \\\"%s\\\"; \"",
  "            \"exit $__calligraphy_rc' EXIT\\n\" % (cwd_file, env_file)",
  "        )",
  "        script = trailer + options.prefix() + \"\\n\" + cmd + \"\\n\"",
  "",
  "        child_env = os.environ.copy()",
  "        child_env[\"CALLIGRAPHY_RC\"] = str(RC)",
  "        proc = subprocess.Popen(",
  "            [_SHELL, \"-c\", script], stdout=subprocess.PIPE, env=child_env",
  "        )",
  "        captured = []",
  "        for raw in iter(proc.stdout.readline, b\"\"):",
  "            line = raw.decode(\"utf-8\", \"replace\")",
  "            captured.append(line)",
  "            if not silent:",
  "                sys.stdout.write(line)",
  "                sys.stdout.flush()",
  "        proc.stdout.close()",
  "        RC = proc.wait()",
  "",
  "        if os.path.exists(cwd_file):",
  "            with open(cwd_file, encoding=\"utf-8\") as handle:",
  "                cwd = handle.read().strip()",
  "            if cwd and os.path.isdir(cwd):",
  "                os.chdir(cwd)",
  "        if os.path.exists(env_file):",
  "            exported = _read_env(env_file)",
  "            exported.pop(\"CALLIGRAPHY_RC\", None)",
  "            for name in set(os.environ) - set(exported):",
  "                if name != \"CALLIGRAPHY_RC\":",
  "                    del os.environ[name]",
  "            os.environ.update(exported)",
  "",
  "    os.environ[\"CALLIGRAPHY_RC\"] = str(RC)",
  "    if get_rc:",
  "        return RC",
  "    if RC != 0:",
  "        raise ShellError(cmd, RC)",
  "    if get_stdout:",
  "        return \"\".join(captured).rstrip(\"\\n\")",
  "    return None",
  "",
  "",
  "def source(path, name):",
  "    \"\"\"Load a compiled script and bind it in the caller's globals.\"\"\"",
  "    if not path.endswith(\".py\"):",
  "        raise ImportError(f\"unsupported extension for sourced script: \x7bpath\x7d\")",
  "    if not os.path.isfile(path):",
  "        raise FileNotFoundError(f\"sourced script not found: \x7bpath\x7d\")",
  "    spec = importlib.util.spec_from_file_location(name, path)",
  "    module = importlib.util.module_from_spec(spec)",
  "    spec.loader.exec_module(module)",
  "    sys._getframe(1).f_globals[name] = module",
  "    return module",
  "",
  "",
  "def _excepthook(kind, value, tb):",
  "    frames = [",
  "        frame",
  "        for frame in traceback.extract_tb(tb)",
  "        if frame.name not in (\"shell\", \"source\", \"_format\", \"_read_env\")",
  "    ]",
  "    sys.stderr.write(\"Traceback (most recent call last):\\n\")",
  "    sys.stderr.write(\"\".join(traceback.format_list(frames)))",
  "    sys.stderr.write(\"\".join(traceback.format_exception_only(kind, value)))",
  "",
  "",
  "sys.excepthook = _excepthook"]

/-- The placeholder that stands for the argument list. -/
def argsPlaceholder : String := "\"PROGRAM_ARGS\""

/-- The preamble text: each line followed by a newline. -/
def headerText : String :=
  String.join (headerLines.map (· ++ "\n"))

/-- A single-quoted literal of the host language that denotes the text: backslash, quote,
newline, carriage return and tab are escaped. -/
def quoteSingle (s : String) : String :=
  "'" ++ String.join (s.toList.map fun c =>
    match c with
    | '\\' => "\\\\"
    | '\'' => "\\'"
    | '\n' => "\\n"
    | '\r' => "\\r"
    | '\t' => "\\t"
    | c => c.toString) ++ "'"

/-- Replaces the first occurrence of a nonempty pattern, if any. -/
def replaceFirst (pat r : List Char) : List Char → List Char
  | [] => []
  | c :: rest =>
    if pat.isPrefixOf (c :: rest) then r ++ (c :: rest).drop pat.length
    else c :: replaceFirst pat r rest

/-- Whether a pattern occurs in a text. -/
def occursIn (pat : List Char) : List Char → Bool
  | [] => pat.isEmpty
  | c :: rest => pat.isPrefixOf (c :: rest) || occursIn pat rest

/-- The preamble of a program run as `script` with arguments `args`. -/
def preamble (script : String) (args : List String) : String :=
  String.ofList (replaceFirst argsPlaceholder.toList
    ("[" ++ ", ".intercalate ((script :: args).map quoteSingle) ++ "]").toList headerText.toList)

/-- The preamble of a sourced script: the lines without the argument placeholder. -/
def importPreamble : String :=
  String.join ((headerLines.filter fun l => !occursIn argsPlaceholder.toList l.toList).map (· ++ "\n"))

/-- A whole program: the preamble, a blank line and the compiled body. -/
def program (script : String) (args : List String) (body : String) : String :=
  preamble script args ++ "\n\n" ++ body

end MixedScript.Target
