import StyleVars.Json.Number

/-
  JSON texts of values, compact (`render`) and indented (`pretty`). A string is written raw but
  for the quotation mark, the backslash and the control characters below the space.
-/

namespace StyleVars.Json

/-- One character inside a string literal. -/
def escapeChar (c : Char) : Text :=
  if c = '"' ∨ c = '\\' then ['\\', c]
  else if 0x20 ≤ c.toNat then [c]
  else if c.toNat = 0x08 then ['\\', 'b']
  else if c.toNat = 0x09 then ['\\', 't']
  else if c.toNat = 0x0A then ['\\', 'n']
  else if c.toNat = 0x0C then ['\\', 'f']
  else if c.toNat = 0x0D then ['\\', 'r']
  else '\\' :: 'u' :: Text.hex 4 c.toNat

/-- The string literal of a text. -/
def stringLiteral (t : Text) : Text := '"' :: t.flatMap escapeChar ++ ['"']

mutual

/-- The compact text of a value. -/
def render : Json → Text
  | .null => "null".toList
  | .bool b => if b then "true".toList else "false".toList
  | .integer n => Text.ofInt n
  | .float x => floatText x
  | .string t => stringLiteral t
  | .array items => '[' :: Text.joinWith [','] (renderItems items) ++ [']']
  | .object fields => '\x7b' :: Text.joinWith [','] (renderFields fields) ++ ['\x7d']

/-- The compact texts of the members of an array. -/
def renderItems : List Json → List Text
  | [] => []
  | v :: vs => render v :: renderItems vs

/-- The compact texts of the fields of an object. -/
def renderFields : List (Text × Json) → List Text
  | [] => []
  | (k, v) :: fs => (stringLiteral k ++ ':' :: render v) :: renderFields fs

end

/-- A line break and the indentation of a nesting level. -/
def lineBreak (level : Nat) : Text := '\n' :: List.replicate (2 * level) ' '

/-- A bracketed list whose members stand on lines of their own, one level in. -/
def block (opening closing : Char) (level : Nat) (members : List Text) : Text :=
  if members.isEmpty then [opening, closing]
  else
    opening :: lineBreak (level + 1) ++ Text.joinWith (',' :: lineBreak (level + 1)) members
      ++ lineBreak level ++ [closing]

mutual

/-- The indented text of a value that stands at a nesting level. -/
def prettyAt (level : Nat) : Json → Text
  | .array items => block '[' ']' level (prettyItems (level + 1) items)
  | .object fields => block '\x7b' '\x7d' level (prettyFields (level + 1) fields)
  | .null => render .null
  | .bool b => render (.bool b)
  | .integer n => render (.integer n)
  | .float x => render (.float x)
  | .string t => render (.string t)

/-- The indented texts of the members of an array. -/
def prettyItems (level : Nat) : List Json → List Text
  | [] => []
  | v :: vs => prettyAt level v :: prettyItems level vs

/-- The indented texts of the fields of an object. -/
def prettyFields (level : Nat) : List (Text × Json) → List Text
  | [] => []
  | (k, v) :: fs =>
    (stringLiteral k ++ ':' :: ' ' :: prettyAt level v) :: prettyFields level fs

end

/-- The indented text of a value. -/
def pretty (v : Json) : Text := prettyAt 0 v

end StyleVars.Json
