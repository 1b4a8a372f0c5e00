import StyleVars.About
import StyleVars.CommandLine.Job
import StyleVars.Disk
import StyleVars.Sass.Compile
import StyleVars.Session
import StyleVars.Variable.Names
import StyleVars.Watch

/-
  Running a command line on a file tree. A run ends with an exit code, what is printed, and the
  tree as it is afterwards, or it goes on watching directories.
-/

namespace StyleVars.CommandLine

/-- The end of a run: exit code, printed text, error message, and the tree with the file that was
written to it, if any. -/
structure Outcome where
  code : Nat
  printed : Text
  error : Option Text
  disk : Disk
  written : Option (Path × Text) := none

/-- How a run goes. -/
inductive Course where
  /-- The run is over. -/
  | over (o : Outcome)
  /-- The arguments are refused, or ask for help or the version. -/
  | usage (e : UsageError)
  /-- The extraction is repeated at every change in these directories. -/
  | watching (j : Job) (directories : List Path)

/-- What is said when no subcommand is given. -/
def noSubcommand : Text :=
  "No subcommand specified. Use --help for usage information.\n".toList

/-- The message of an error at the end of a run. -/
def finalMessage : ExtractError → Text
  | .inputOutput e => "IO Error: ".toList ++ e.message
  | e => e.message

namespace Job

/-- The rendered variables. -/
def extract (j : Job) (fs : FileSystem) (token : Text) : Except ExtractError Text :=
  (Session.run fs (Sass.compiler fs) token j.options j.entry).map (Render.text j.format)

/-- Delivers a rendered text: to its file, or else as text to print. Either way a line feed ends
it. -/
def deliver (j : Job) (d : Disk) (rendered : Text) : Except ExtractError Outcome :=
  let t := rendered ++ ['\n']
  match j.output with
  | none => .ok ⟨0, t, none, d, none⟩
  | some p =>
    match d.write p t with
    | .ok d => .ok ⟨0, [], none, d, some (p, t)⟩
    | .error e => .error (.inputOutput (.file e))

/-- Extracts once and delivers the result. -/
def once (j : Job) (d : Disk) (token : Text) : Except ExtractError Outcome :=
  (j.extract d.fileSystem token).bind (j.deliver d)

/-- The line that says what is watched. -/
def watchingLine (j : Job) : Text :=
  "Watching ".toList ++ j.entry.text ++ " for changes...".toList

end Job

/-- The names in a stylesheet, one on a line. -/
def listNames (fs : FileSystem) (input : Text) : Except ExtractError (List Text) :=
  match fs.readText ⟨input⟩ with
  | .error e => .error (.inputOutput (.file e))
  | .ok t => .ok (Variable.scan t)

/-- Runs a subcommand. -/
def Command.run (d : Disk) (token : Text) (c : Config) : Command → Except ExtractError Course
  | .names input =>
    (listNames d.fileSystem input).map fun names =>
      .over ⟨0, names.flatMap (· ++ ['\n']), none, d, none⟩
  | .extract a =>
    let j := a.job c
    if a.watch then
      let directories := Watch.directories d.fileSystem j.entry j.options.searchRoots
      (Watch.check d.fileSystem directories).map fun _ => .watching j directories
    else (j.once d token).map .over

/-- Runs a command line that has been read. -/
def Arguments.run (d : Disk) (token : Text) (a : Arguments) : Except ExtractError Course := do
  let c ← match a.config with
    | none => .ok {}
    | some path => Config.load d.fileSystem path
  match a.command with
  | none => return .over ⟨0, noSubcommand, none, d, none⟩
  | some command => command.run d token c

/-- Runs a command line. -/
def run (d : Disk) (token : Text) (args : List Text) : Course :=
  match Arguments.read args with
  | .error e => .usage e
  | .ok a =>
    match a.run d token with
    | .ok course => course
    | .error e => .over ⟨1, [], some (finalMessage e), d, none⟩

/-- The exit code of a usage error; a request for help or the version is none. -/
def UsageError.code : UsageError → Nat
  | .displayHelp => 0
  | .displayVersion => 0
  | _ => 2

/-- How the program is used. -/
def usageText : Text :=
  "Usage: sassvars [-v]... [-c FILE] extract [-I DIR]... [-o FILE] [-f json|pretty|env]\n".toList
    ++ "                [--extension EXT] [-d] [-w] INPUT\n".toList
    ++ "       sassvars [-v]... [-c FILE] names INPUT\n".toList

/-- What is said when arguments are refused, or what was asked for instead of a run. -/
def UsageError.message : UsageError → Text
  | .unknownArgument => "error: unexpected argument\n\n".toList ++ usageText
  | .invalidSubcommand => "error: unrecognized subcommand\n\n".toList ++ usageText
  | .missingRequiredArgument => "error: the input is missing\n\n".toList ++ usageText
  | .invalidValue => "error: an option has no value, or not one it takes\n\n".toList ++ usageText
  | .argumentConflict => "error: an option is given more than once\n\n".toList ++ usageText
  | .tooManyValues => "error: an option that takes no value has one\n\n".toList ++ usageText
  | .displayHelp => usageText
  | .displayVersion => About.versionLine

end StyleVars.CommandLine
