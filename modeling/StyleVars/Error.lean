import StyleVars.Path.Basic
import StyleVars.Json.Printer

/-
  What can go wrong in an extraction, by cause, and the wording of each cause. A missing import
  target is the one error that is not fatal: the import hook keeps it to itself.
-/

namespace StyleVars

/-- Why a file operation fails. -/
inductive FileError where
  | notFound
  | isDirectory
  | notDirectory
  | notText
deriving DecidableEq, Repr

namespace FileError

def message : FileError → Text
  | notFound => "No such file or directory (os error 2)".toList
  | isDirectory => "Is a directory (os error 21)".toList
  | notDirectory => "Not a directory (os error 20)".toList
  | notText => "stream did not contain valid UTF-8".toList

end FileError

/-- An input or output failure, with what was being done. -/
inductive InputOutputError where
  | file (cause : FileError)
  | config (path : Text) (cause : FileError)
  | watch (cause : FileError)
  | other (text : Text)

namespace InputOutputError

def message : InputOutputError → Text
  | file e => e.message
  | config path e => "Config file ".toList ++ path ++ ": ".toList ++ e.message
  | watch e => "Failed to watch directory: ".toList ++ e.message
  | other t => t

end InputOutputError

/-- Why no variables can be read from compiled text. The program puts a colon and the JSON parser's
own account of the mistake behind the wording of `notJson`; that account is left out here. -/
inductive ExtractionFailure where
  | markerMissing (token : Text)
  | notJson
  | notObject (value : Json)
  | other (text : Text)

namespace ExtractionFailure

def message : ExtractionFailure → Text
  | markerMissing token =>
    "Marker for session ".toList ++ token ++ " not found in compiler output".toList
  | notJson => "Payload is not valid JSON".toList
  | notObject v => "Payload is not a JSON object: ".toList ++ v.render
  | other t => t

end ExtractionFailure

/-- Why a configuration is refused. The parsers' own accounts, which the program puts behind the
wordings of `jsonConfig` and `tomlConfig`, are left out here. -/
inductive FormatError where
  | unknownConfigKind
  | jsonConfig
  | tomlConfig
  | other (text : Text)

namespace FormatError

def message : FormatError → Text
  | unknownConfigKind => "Config file must be .json or .toml format".toList
  | jsonConfig => "Invalid JSON config".toList
  | tomlConfig => "Invalid TOML config".toList
  | other t => t

end FormatError

/-- The errors of an extraction. An extraction failure may name the entry point it arose for. -/
inductive ExtractError where
  | inputOutput (cause : InputOutputError)
  | notFound (reference : Text) (candidates : List Path)
  | compilationFailed (text : Text)
  | extractionFailed (cause : ExtractionFailure) (entry : Option Path)
  | invalidFormat (cause : FormatError)

namespace ExtractError

/-- The text that names the entry point behind a failure. -/
def entrySuffix : Option Path → Text
  | none => []
  | some p => " (entry point '".toList ++ p.text ++ "')".toList

/-- The wording of an error. -/
def message : ExtractError → Text
  | inputOutput e => "IO error: ".toList ++ e.message
  | notFound reference candidates =>
    "No file found for import '".toList ++ reference ++ "' (".toList
      ++ Text.ofNat candidates.length ++ " candidates tried)".toList
  | compilationFailed t => "Compilation failed: ".toList ++ t
  | extractionFailed e entry => "Extraction failed: ".toList ++ e.message ++ entrySuffix entry
  | invalidFormat e => "Invalid format: ".toList ++ e.message

/-- Does the error end an extraction? -/
def isFatal : ExtractError → Bool
  | notFound .. => false
  | _ => true

end ExtractError
end StyleVars
