import StyleVars.Toml.Basic
import StyleVars.Toml.Scalar

/-
  Reading TOML documents. The lines of a document are read one after the other into the tree of
  its tables; a header moves to another table, a key adds an entry to the current one.
-/

namespace StyleVars.Toml

/-- A character of a bare key. -/
def isKeyChar (c : Char) : Bool := c.isAlphanum || c = '-' || c = '_'

/-- Takes the blanks inside a line. -/
def blanks : Reader Unit := discard (Reader.takeWhile isBlank)

/-- One part of a key. -/
def keyPart : Reader Text := do
  match ← Reader.peek with
  | some '"' => Reader.of lineString
  | some '\'' => Reader.of lineString
  | _ => Reader.takeWhile1 isKeyChar

/-- How many levels of arrays and inline tables, and how many parts of a key, are too many. -/
def levelLimit : Nat := 80

/-- The parts of a dotted key; the first argument bounds their number. -/
def keyParts : Nat → Reader (List Text)
  | 0 => failure
  | n + 1 => do
    blanks
    let part ← keyPart
    blanks
    if ← Reader.accept ['.'] then return part :: (← keyParts n) else return [part]

/-- A key. -/
def key : Reader (List Text) := keyParts (levelLimit - 1)

/-- A comment, if there is one. -/
def comment : Reader Unit := do
  if ← Reader.accept ['#'] then
    let _ ← Reader.takeWhile isTextChar

/-- The end of a line. -/
def lineEnd : Reader Unit := do
  if (← Reader.accept ['\n']) || (← Reader.accept ['\r', '\n']) then return ()
  Reader.require (← Reader.peek).isNone

/-- What may follow a statement on its line. -/
def lineRest : Reader Unit := do blanks; comment; lineEnd

/-- Blanks, comments and line breaks, as allowed between the members of an array. The argument
bounds the number of lines. -/
def gaps : Nat → Reader Unit
  | 0 => pure ()
  | n + 1 => do
    blanks
    comment
    if (← Reader.accept ['\n']) || (← Reader.accept ['\r', '\n']) then gaps n

/-- Blanks, comments and line breaks, as many as there are. -/
def gap : Reader Unit := do gaps ((← get).length + 1)

/-- A scalar that is no string. -/
def plainScalar : Reader Item :=
  (do Reader.expect "true".toList; return .boolean true)
  <|> (do Reader.expect "false".toList; return .boolean false)
  <|> (do moment; return .moment)
  <|> (do number; return .number)

mutual

/-- A value: the first argument bounds the steps, the second counts the levels that may still be
opened. -/
def value : Nat → Nat → Reader Item
  | 0, _ => failure
  | n + 1, levels => do
    match ← Reader.peek with
    | some '"' => .string <$> Reader.of string
    | some '\'' => .string <$> Reader.of string
    | some '[' => do
      Reader.require (0 < levels)
      let _ ← Reader.next
      .array <$> arrayItems n (levels - 1)
    | some '\x7b' => do
      Reader.require (0 < levels)
      let _ ← Reader.next
      blanks
      if ← Reader.accept ['\x7d'] then return .inlineTable []
      .inlineTable <$> inlineEntries n (levels - 1) []
    | _ => plainScalar

/-- The members of an array, up to its closing bracket. -/
def arrayItems : Nat → Nat → Reader (List Item)
  | 0, _ => failure
  | n + 1, levels => do
    gap
    if ← Reader.accept [']'] then return []
    let v ← value n levels
    gap
    if ← Reader.accept [','] then return v :: (← arrayItems n levels)
    Reader.expect [']']
    return [v]

/-- The entries of an inline table after those read so far, up to its closing brace. -/
def inlineEntries : Nat → Nat → Entries → Reader Entries
  | 0, _, _ => failure
  | n + 1, levels, es => do
    let k ← key
    Reader.expect ['=']
    blanks
    let v ← value n levels
    blanks
    let es ← liftM (es.addKey k v)
    if ← Reader.accept [','] then inlineEntries n levels es
    else do
      Reader.expect ['\x7d']
      return es

end

/-- One statement of a document: a header or a key with its value. It takes the keys of the
current table and the tree, and gives them back changed. -/
def statement (current : List Text) (root : Entries) : Reader (List Text × Entries) := do
  if ← Reader.accept ['[', '['] then
    let k ← key
    Reader.expect [']', ']']
    lineRest
    let root ← liftM (root.underHeader (Entries.openElement (k.getLast?.getD [])) k.dropLast)
    return (k, root)
  else if ← Reader.accept ['['] then
    let k ← key
    Reader.expect [']']
    lineRest
    let root ← liftM (root.underHeader (Entries.openTable (k.getLast?.getD [])) k.dropLast)
    return (k, root)
  else
    let k ← key
    Reader.expect ['=']
    blanks
    let v ← value (2 * (← get).length + 2) (levelLimit - 1)
    lineRest
    let root ← liftM (root.underHeader (Entries.addKey k v) current)
    return (current, root)

/-- The statements of a document, one line or more each. The first argument bounds their
number. -/
def statements : Nat → List Text → Entries → Reader Entries
  | 0, _, root => return root
  | n + 1, current, root => do
    blanks
    match ← Reader.peek with
    | none => return root
    | some c =>
      if c = '#' ∨ c = '\n' ∨ c = '\r' then do
        comment
        lineEnd
        statements n current root
      else do
        let (current, root) ← statement current root
        statements n current root

/-- The root table of a document. A byte order mark in front of it is ignored. -/
def read? (t : Text) : Option Entries :=
  let t := (Text.stripPrefix? ['\uFEFF'] t).getD t
  (statements (t.length + 1) [] []).whole? t

end StyleVars.Toml
