import StyleVars.CommandLine.Arguments
import StyleVars.Config
import StyleVars.Interceptor

/-
  What a command line asks for once the configuration file is known. Search roots of the command
  line come before those of the configuration; for every other setting the command line wins.
-/

namespace StyleVars.CommandLine

/-- One extraction as it is asked for: what to extract, how to write it, and where to. -/
structure Job where
  entry : Path
  options : Options
  format : OutputFormat
  output : Option Path
deriving Repr

/-- An extension with the dot in front of it. -/
def dotted (extension : Text) : Text :=
  match extension with
  | '.' :: _ => extension
  | _ => '.' :: extension

namespace ExtractArguments

/-- The settings of the extraction. -/
def options (a : ExtractArguments) (c : Config) : Options where
  searchRoots := (a.searchRoots ++ c.includeDirectories.getD []).map Path.mk
  extension := ((a.extension.or c.defaultExtension).map dotted).getD defaultExtension
  debug := a.debug

/-- The output format: as asked for, else indented if the configuration says so. -/
def outputFormat (a : ExtractArguments) (c : Config) : OutputFormat :=
  a.format.getD (if c.pretty = some true then .pretty else .json)

/-- The file the result is written to, if it is not printed. -/
def outputPath (a : ExtractArguments) (c : Config) : Option Path :=
  (a.output.or c.output).map Path.mk

/-- The extraction that is asked for. -/
def job (a : ExtractArguments) (c : Config) : Job :=
  ⟨⟨a.input⟩, a.options c, a.outputFormat c, a.outputPath c⟩

end ExtractArguments

/-! ## Diagnostics -/

/-- How much is logged. -/
inductive Level where
  | warn
  | info
  | debug
  | trace
deriving DecidableEq, Repr

namespace Level

/-- The name of a level. -/
def name : Level → Text
  | warn => "WARN".toList
  | info => "INFO".toList
  | debug => "DEBUG".toList
  | trace => "TRACE".toList

/-- The level that a number of `-v` selects. -/
def ofCount : Nat → Level
  | 0 => warn
  | 1 => info
  | 2 => debug
  | _ => trace

/-- The level that is selected, unless the environment has settled it. -/
def selected? (count : Nat) (settledByEnvironment : Bool) : Option Level :=
  if settledByEnvironment then none else some (ofCount count)

end Level
end StyleVars.CommandLine
