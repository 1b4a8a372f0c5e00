import StyleVars.Json.Printer
import StyleVars.Payload.Extract
import StyleVars.Text.UpperCase

/-
  Output formats of a variable map: compact JSON, indented JSON, and `NAME=value` lines for
  shells, in which names are upper case with low lines for hyphens and a string stands for itself.
-/

namespace StyleVars

/-- How a variable map is written. -/
inductive OutputFormat where
  | json
  | pretty
  | env
deriving DecidableEq, Repr

namespace OutputFormat

/-- The name of a format on the command line. -/
def name : OutputFormat → Text
  | json => "json".toList
  | pretty => "pretty".toList
  | env => "env".toList

/-- The format with this name. -/
def ofName? (t : Text) : Option OutputFormat := [json, pretty, env].find? fun f => f.name = t

end OutputFormat

namespace Render

/-- A variable name for shells. -/
def envName (key : Text) : Text :=
  (Text.upperCase key).map fun c => if c = '-' then '_' else c

/-- A value for shells. -/
def envValue : Json → Text
  | .string t => t
  | v => v.render

/-- The line of one variable for shells. -/
def envLine (field : Text × Json) : Text := envName field.1 ++ '=' :: envValue field.2

/-- The lines for shells, without a line feed at the end. -/
def env (fields : VariableMap) : Text := Text.joinWith ['\n'] (fields.map envLine)

/-- The text of a variable map in a format. -/
def text (format : OutputFormat) (fields : VariableMap) : Text :=
  match format with
  | .json => (Json.object fields).render
  | .pretty => (Json.object fields).pretty
  | .env => env fields

end Render
end StyleVars
