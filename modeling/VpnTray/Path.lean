import VpnTray.Text.Basic

/-!
# Paths

A path is the text by which a file is named. The tray keeps two files: its
configuration, in the user's configuration directory, and its lock, in the
directory for files of the running session. Which directories these are is said
by the variables of the environment.

* `Path.join`: a name within a directory;
* `Path.names`: the names that a path goes through;
* `Path.above`: the directories that it lies in, as paths;
* `Environment.configPath`, `Environment.lockPath`: the two files.
-/

namespace VpnTray

/-- The name of a file or directory. -/
abbrev Path := Text

namespace Path

/-- The file called `name` in a directory; the empty path is the working directory. -/
def join (directory : Path) (name : String) : Path :=
  if directory = [] || directory.getLast? = some '/' then directory ++ name.toList
  else directory ++ ['/'] ++ name.toList

/-- The path starts at the root. -/
def isAbsolute (path : Path) : Bool := path.head? = some '/'

/-- What stands between the slashes of a path, in order. -/
def pieces (path : Path) : List Text := path.splitOnP (· == '/')

/-- The names that a path goes through, in order; several slashes part them like one. -/
def names (path : Path) : List Text := path.pieces.filter (!·.isEmpty)

/-- The paths that lead through some pieces, longest first. A slash or a `.` at the end of
    a path leads nowhere else, so that there is no path with one. The pieces come last
    first. -/
def leading : List Text → List Path
  | [] => []
  | piece :: outer =>
    if piece = [] || piece = ['.'] then leading outer
    else List.intercalate ['/'] (piece :: outer).reverse :: leading outer

/-- The directories that a path lies in, innermost first, each as the beginning of the path. -/
def above (path : Path) : List Path := (leading path.pieces.reverse).tail

/-- The path asks for a directory, as a slash follows its last name. -/
def endsInSlash (path : Path) : Bool := path.getLast? = some '/'

end Path

/-- What says where files belong: variables, as far as they are set, and the user's
    account. -/
structure Environment where
  /-- The user's home, as a variable names it. -/
  home : Option Path := none
  /-- The user's home, as the system knows it from the account. -/
  accountHome : Option Path := none
  /-- The directory for configurations. -/
  configHome : Option Path := none
  /-- The directory for files of the running session. -/
  runtimeDir : Option Path := none
  /-- The directory for temporary files. -/
  tempDir : Option Path := none

namespace Environment

variable (env : Environment)

/-- The user's home: the one that is set, unless it is empty, or that of the account. -/
def homeDir? : Option Path := env.home.filter (· ≠ []) <|> env.accountHome

/-- The user's configuration directory. A relative one is not accepted; without any,
    it is a directory in the user's home. -/
def configDir : Path :=
  match env.configHome.filter Path.isAbsolute, env.homeDir? with
  | some directory, _ => directory
  | none, some home => Path.join home ".config"
  | none, none => ['.']

/-- The configuration of the tray. -/
def configPath : Path := (env.configDir.join "twingate_tray").join "config.json"

/-- The directory for files of the running session, or else for temporary files. -/
def lockDir : Path := (env.runtimeDir.filter (· ≠ [])).getD (env.tempDir.getD "/tmp")

/-- The lock of the tray. -/
def lockPath : Path := env.lockDir.join "twingate_tray.lock"

end Environment

end VpnTray
