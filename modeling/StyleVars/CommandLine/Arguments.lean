import StyleVars.Render

/-
  The arguments of the command line. A command has options and at most one positional argument;
  the main command has subcommands instead. Short options cluster, and a value may be attached to
  its option or follow as the next argument, unless that one looks like an option. An option that
  waits for its value is settled when the next argument turns up, so that an unknown option wins
  over a missing or bad value before it.
-/

namespace StyleVars.CommandLine

/-- Why arguments are refused, or what is asked for instead of a run. -/
inductive UsageError where
  | unknownArgument
  | invalidSubcommand
  | missingRequiredArgument
  | invalidValue
  | argumentConflict
  | tooManyValues
  | displayHelp
  | displayVersion
deriving DecidableEq, Repr

/-- The options of all commands. -/
inductive Opt where
  | help
  | version
  | config
  | verbose
  | searchRoot
  | output
  | format
  | extension
  | debug
  | watch
deriving DecidableEq, Repr

namespace Opt

/-- The one-letter name. -/
def short? : Opt → Option Char
  | help => some 'h'
  | version => some 'V'
  | config => some 'c'
  | verbose => some 'v'
  | searchRoot => some 'I'
  | output => some 'o'
  | format => some 'f'
  | extension => none
  | debug => some 'd'
  | watch => some 'w'

/-- The long name. -/
def long : Opt → Text
  | help => "help".toList
  | version => "version".toList
  | config => "config".toList
  | verbose => "verbose".toList
  | searchRoot => "include".toList
  | output => "output".toList
  | format => "format".toList
  | extension => "extension".toList
  | debug => "debug".toList
  | watch => "watch".toList

/-- Does the option take a value? -/
def takesValue : Opt → Bool
  | config => true
  | searchRoot => true
  | output => true
  | format => true
  | extension => true
  | _ => false

/-- May the option be given more than once? -/
def isRepeatable : Opt → Bool
  | verbose => true
  | searchRoot => true
  | _ => false

/-- Is the value one the option takes? -/
def accepts : Opt → Text → Bool
  | format, v => (OutputFormat.ofName? v).isSome
  | _, _ => true

end Opt

/-- What a command takes. -/
structure Grammar where
  options : List Opt
  hasInput : Bool
  subcommands : List Text

namespace Grammar

/-- The name of the subcommand that shows help. -/
def helpName : Text := "help".toList

/-- The name of the subcommand that extracts variables. -/
def extractName : Text := "extract".toList

/-- The name of the subcommand that lists names. -/
def namesName : Text := "names".toList

/-- The main command. -/
def main : Grammar :=
  ⟨[.help, .version, .config, .verbose], false, [extractName, namesName, helpName]⟩

/-- The command that extracts variables. -/
def extract : Grammar :=
  ⟨[.help, .config, .verbose, .searchRoot, .output, .format, .extension, .debug, .watch], true,
    []⟩

/-- The command that lists names. -/
def names : Grammar := ⟨[.help, .config, .verbose], true, []⟩

end Grammar

/-- What has been read of a command: occurrences of options with their values (empty for flags),
and the positional argument. -/
structure Matches where
  options : List (Opt × Text) := []
  input : Option Text := none

namespace Matches

/-- The values given for an option, in order. -/
def values (m : Matches) (o : Opt) : List Text := (m.options.filter (·.1 = o)).map (·.2)

/-- Was the option given? -/
def has (m : Matches) (o : Opt) : Bool := m.options.any (·.1 = o)

/-- Takes up one occurrence of an option. -/
def take (m : Matches) (o : Opt) (value : Option Text) : Except UsageError Matches :=
  if o.takesValue ∧ value.isNone then .error .invalidValue
  else if o = .help then .error .displayHelp
  else if o = .version then .error .displayVersion
  else if m.has o ∧ !o.isRepeatable then .error .argumentConflict
  else if !o.accepts (value.getD []) then .error .invalidValue
  else .ok { m with options := m.options ++ [(o, value.getD [])] }

end Matches

/-- Something read but not yet taken up: an option, perhaps without its value so far, or the
positional argument. -/
inductive Pending where
  | option (o : Opt) (value : Option Text)
  | input (t : Text)

/-- A reader of arguments on its way. After `--` only positional arguments follow. -/
structure Scan where
  done : Matches := {}
  pending : Option Pending := none
  positionalOnly : Bool := false

namespace Scan

/-- Takes up what is pending. -/
def settle (s : Scan) : Except UsageError Scan :=
  match s.pending with
  | none => .ok s
  | some (.input t) => .ok { s with done := { s.done with input := some t }, pending := none }
  | some (.option o v) => (s.done.take o v).map fun m => { s with done := m, pending := none }

/-- Does an option wait for its value? -/
def awaitsValue (s : Scan) : Bool :=
  match s.pending with
  | some (.option _ none) => true
  | _ => false

/-- Takes up what is pending, and then an option that needs no more. -/
def takeNow (s : Scan) (o : Opt) (value : Option Text) : Except UsageError Scan :=
  s.settle.bind fun s => (s.done.take o value).map fun m => { s with done := m }

/-- Takes an option with the value attached to it, or leaves it waiting for one. -/
def takeOption (s : Scan) (o : Opt) (attached : Option Text) : Except UsageError Scan :=
  match attached with
  | some v => s.takeNow o (some v)
  | none => s.settle.map fun s => { s with pending := some (.option o none) }

/-- A long option, given without its two hyphens. -/
def long (g : Grammar) (s : Scan) (t : Text) : Except UsageError Scan :=
  let name := t.takeWhile (· ≠ '=')
  let attached := match t.dropWhile (· ≠ '=') with
    | [] => none
    | _ :: v => some v
  match g.options.find? fun o => o.long = name with
  | none => .error .unknownArgument
  | some o =>
    if o.takesValue then s.takeOption o attached
    else if attached.isSome then .error .tooManyValues
    else s.takeNow o none

/-- A cluster of short options, given without its hyphen. -/
def cluster (g : Grammar) (s : Scan) : Text → Except UsageError Scan
  | [] => .ok s
  | c :: r =>
    match g.options.find? fun o => o.short? = some c with
    | none => .error .unknownArgument
    | some o =>
      if o.takesValue then
        s.takeOption o (match r with
          | [] => none
          | '=' :: v => some v
          | v => some v)
      else (s.takeNow o none).bind fun s => cluster g s r

/-- A positional argument. -/
def positional (g : Grammar) (s : Scan) (t : Text) : Except UsageError Scan :=
  let taken := match s.pending with
    | some (.input _) => true
    | _ => s.done.input.isSome
  if g.hasInput ∧ !taken then s.settle.map fun s => { s with pending := some (.input t) }
  else if g.subcommands.isEmpty ∨ (s.positionalOnly ∧ g.subcommands.contains t) then
    .error .unknownArgument
  else .error .invalidSubcommand

/-- Reads the arguments of a command, up to a subcommand if there is one: its name and its own
arguments come second. -/
def read (g : Grammar) (s : Scan) :
    List Text → Except UsageError (Scan × Option (Text × List Text))
  | [] => .ok (s, none)
  | t :: ts =>
    if s.positionalOnly then (s.positional g t).bind fun s => read g s ts
    else if !s.awaitsValue ∧ g.subcommands.contains t then .ok (s, some (t, ts))
    else match t with
      | ['-', '-'] => read g { s with positionalOnly := true } ts
      | '-' :: '-' :: name => (s.long g name).bind fun s => read g s ts
      | '-' :: c :: r => (s.cluster g (c :: r)).bind fun s => read g s ts
      | _ =>
        match s.pending with
        | some (.option o none) => read g { s with pending := some (.option o (some t)) } ts
        | _ => (s.positional g t).bind fun s => read g s ts

end Scan

/-- Reads all arguments of a command that has no subcommands. -/
def readCommand (g : Grammar) (args : List Text) : Except UsageError Matches :=
  (Scan.read g {} args).bind fun (s, _) =>
    s.settle.bind fun s =>
      if g.hasInput ∧ s.done.input.isNone then .error .missingRequiredArgument else .ok s.done

/-- The arguments of the subcommand that extracts variables. -/
structure ExtractArguments where
  input : Text
  searchRoots : List Text
  output : Option Text
  format : Option OutputFormat
  extension : Option Text
  debug : Bool
  watch : Bool
deriving Repr

/-- A subcommand with its arguments. -/
inductive Command where
  | extract (a : ExtractArguments)
  | names (input : Text)
deriving Repr

/-- A whole command line. -/
structure Arguments where
  verbosity : Nat
  config : Option Text
  command : Option Command
deriving Repr

/-- The largest count of `-v` that is told apart. -/
def verbosityLimit : Nat := 255

namespace Arguments

/-- The subcommand a name and its matches stand for. -/
def commandOf (name : Text) (m : Matches) : Command :=
  let input := m.input.getD []
  let one (o : Opt) : Option Text := (m.values o).head?
  if name = Grammar.namesName then .names input
  else .extract {
    input
    searchRoots := m.values .searchRoot
    output := one .output
    format := (one .format).bind OutputFormat.ofName?
    extension := one .extension
    debug := m.has .debug
    watch := m.has .watch }

/-- The help subcommand: it takes the name of one subcommand at most. -/
def helpRequest : List Text → UsageError
  | [] => .displayHelp
  | [t] => if Grammar.main.subcommands.contains t then .displayHelp else .invalidSubcommand
  | _ => .invalidSubcommand

/-- Reads a command line. An option that stands before and inside the subcommand counts as given
inside. -/
def read (args : List Text) : Except UsageError Arguments :=
  (Scan.read .main {} args).bind fun (s, rest) =>
    match rest with
    | none =>
      s.settle.map fun s =>
        ⟨min (s.done.values .verbose).length verbosityLimit, (s.done.values .config).head?, none⟩
    | some (name, args) =>
      if name = Grammar.helpName then .error (helpRequest args)
      else
        let g := if name = Grammar.namesName then Grammar.names else Grammar.extract
        (readCommand g args).bind fun m =>
          s.settle.map fun s =>
            let given (o : Opt) := if m.has o then m.values o else s.done.values o
            ⟨min (given .verbose).length verbosityLimit, (given .config).head?,
              some (commandOf name m)⟩

end Arguments
end StyleVars.CommandLine
