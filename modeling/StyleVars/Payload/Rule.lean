import StyleVars.Marker
import StyleVars.Variable.Token
import StyleVars.Json.Printer

/-
  The rule that makes the compiler serialize variables. Its one declaration is a single-quoted
  string that spells a JSON object: a field for every name, whose key is the name's key and whose
  value is an interpolation that yields the JSON text of the global variable, or `null` if there
  is no such global.
-/

namespace StyleVars.Payload

/-- The characters of a JSON key that need a backslash inside a single-quoted string: the
backslash, the quote itself, and the mark that would open an interpolation. -/
def needsBackslash (c : Char) : Bool := c = '\\' || c = '\'' || c = '#'

/-- The JSON literal of a key, written for a single-quoted stylesheet string. -/
def quoteKey (key : Text) : Text :=
  (Json.stringLiteral key).flatMap fun c => if needsBackslash c then ['\\', c] else [c]

/-- A name without its first character, which must be a single byte in UTF-8. -/
def nameBody? : Text → Option Text
  | [] => none
  | c :: r => if c.toNat < 0x80 then some r else none

/-- The expression that yields the JSON text of a global variable or `null`. -/
def fieldExpression (body name : Text) : Text :=
  "if(global-variable-exists('".toList ++ body ++ "'), json-encode(".toList ++ name
    ++ "), 'null')".toList

/-- The field of one name. -/
def field? (name : Text) : Option Text :=
  (nameBody? name).map fun body =>
    quoteKey (Variable.key name) ++ ": #\x7b".toList ++ fieldExpression body name ++ ['\x7d']

/-- The object text for a list of names, a field for each. -/
def object? (names : List Text) : Option Text :=
  (names.mapM field?).map fun fields =>
    '\x7b' :: Text.joinWith [','] fields ++ ['\x7d']

/-- The rule that a session's token import stands for. -/
def rule? (token : Text) (names : List Text) : Option Text :=
  (object? names).map fun object =>
    "\n.".toList ++ token ++ '\x7b' :: Marker.property token ++ ":'".toList ++ object
      ++ "';\x7d\n".toList

end StyleVars.Payload
