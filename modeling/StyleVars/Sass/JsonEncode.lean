import StyleVars.Sass.Value

/-
  The JSON text of stylesheet values, as the helper stylesheet defines it: unitless numbers,
  booleans and null are literals, lists arrays, maps objects, and everything else is a string. In
  strings the quotation mark, the backslash and the line feed are escaped, and nothing else.
-/

namespace StyleVars.Sass.JsonEncode

/-- One character inside a JSON string. -/
def escapeChar (c : Char) : Text :=
  if c = '"' then ['\\', '"']
  else if c = '\\' then ['\\', '\\']
  else if c = '\n' then ['\\', 'n']
  else [c]

/-- A text inside a JSON string. -/
def escapeString (t : Text) : Text := t.flatMap escapeChar

/-- A text as a JSON string. -/
def stringText (t : Text) : Text := '"' :: escapeString t ++ ['"']

/-- A map key as a JSON string: a string by its text, any other value by what `inspect` shows. -/
def keyText : Value → Text
  | .string t _ => stringText t
  | v => stringText v.inspect

mutual

/-- The JSON text of a value. -/
def encode : Value → Text
  | .null => "null".toList
  | .bool b => if b then "true".toList else "false".toList
  | .number x unit =>
    let t := Value.inspect (.number x unit)
    if unit.isEmpty then t else '"' :: t ++ ['"']
  | .list items _ _ => '[' :: Text.joinWith [','] (encodeItems items) ++ [']']
  | .map entries => '\x7b' :: Text.joinWith [','] (encodeEntries entries) ++ ['\x7d']
  | .string t _ => stringText t
  | .color spelling => stringText (Value.inspect (.color spelling))

/-- The JSON texts of the members of a list. -/
def encodeItems : List Value → List Text
  | [] => []
  | v :: vs => encode v :: encodeItems vs

/-- The JSON texts of the entries of a map. -/
def encodeEntries : List (Value × Value) → List Text
  | [] => []
  | (k, v) :: es => (keyText k ++ ':' :: encode v) :: encodeEntries es

end

end StyleVars.Sass.JsonEncode
