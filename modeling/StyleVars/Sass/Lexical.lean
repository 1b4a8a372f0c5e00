import StyleVars.CssString
import StyleVars.Text.Reader

/-
  The lexical rules of stylesheets: blanks and comments, quoted strings with interpolations,
  identifiers with escapes. A backslash always takes the next character along. `#` and a brace
  open an interpolation inside a string; it ends at its matching brace, and strings nest in it.
-/

namespace StyleVars.Sass

/-- A blank. -/
def isBlank (c : Char) : Bool :=
  c = ' ' || c = '\t' || c = '\n' || c = '\r' || c = '\x0c'

/-- A line break. -/
def isBreak (c : Char) : Bool := c = '\n' || c = '\r' || c = '\x0c'

/-- A character an identifier may start with, escapes apart. -/
def isNameStart (c : Char) : Bool := c.isAlpha || c = '_' || 0x80 ≤ c.toNat

/-- A character of an identifier, escapes apart. -/
def isNameChar (c : Char) : Bool := isNameStart c || c.isDigit || c = '-'

/-! ## Quoted strings -/

/-- A part of a quoted string, escapes not yet read: text, or the source of an interpolation. -/
inductive StringPart where
  | text (raw : Text)
  | interpolation (source : Text)
deriving DecidableEq, Repr

/-- What is open inside an interpolation: a brace, or a string by its quote. -/
inductive Open where
  | brace
  | string (quote : Char)
deriving DecidableEq, Repr

/-- Puts a character in front of the text that parts start with. -/
def consText (c : Char) : List StringPart → List StringPart
  | .text t :: ps => .text (c :: t) :: ps
  | ps => .text [c] :: ps

/-- Puts a character in front of the interpolation that parts start with. -/
def consSource (c : Char) : List StringPart → List StringPart
  | .interpolation t :: ps => .interpolation (c :: t) :: ps
  | ps => .interpolation [c] :: ps

/-- What is open after a character inside an interpolation. -/
def openAfter (stack : List Open) (c : Char) : List Open :=
  match stack with
  | .string q :: outer => if c = q then outer else stack
  | _ =>
    if c = '\x7b' then .brace :: stack
    else if c = '\x7d' then stack.drop 1
    else if c = '"' ∨ c = '\'' then .string c :: stack
    else stack

/-- The rest of a quoted string: its parts up to the closing quote, and what follows. The list
holds what is open in the interpolation the text stands in, innermost first; it is empty outside
of one. -/
def stringRest (quote : Char) : List Open → Text → Option (List StringPart × Text)
  | _, [] => none
  | [], '\\' :: c :: r =>
    (stringRest quote [] r).map fun (ps, r) => (consText '\\' (consText c ps), r)
  | [], '#' :: '\x7b' :: r => stringRest quote [.brace] r
  | [], c :: r =>
    if c = quote then some ([], r)
    else if c = '\\' ∨ isBreak c then none
    else (stringRest quote [] r).map fun (ps, r) => (consText c ps, r)
  | o :: outer, '\\' :: c :: r =>
    (stringRest quote (o :: outer) r).map fun (ps, r) => (consSource '\\' (consSource c ps), r)
  | .string q :: outer, '#' :: '\x7b' :: r =>
    (stringRest quote (.brace :: .string q :: outer) r).map fun (ps, r) =>
      (consSource '#' (consSource '\x7b' ps), r)
  | o :: outer, c :: r =>
    match openAfter (o :: outer) c with
    | [] => (stringRest quote [] r).map fun (ps, r) => (.interpolation [] :: ps, r)
    | stack => (stringRest quote stack r).map fun (ps, r) => (consSource c ps, r)

/-- The largest number an escape may name. -/
def escapeLimit : Nat := 0x10FFFF

/-- The character an escape by number stands for. -/
def numbered (digits : Text) : Char :=
  if numberOfDigits 16 digits < escapeLimit then CssString.numbered digits else '\uFFFD'

/-- Drops the blank that may end an escape by number. -/
def dropBlank : Text → Text
  | [] => []
  | c :: r => if isBlank c then r else c :: r

/-- Dropping the blank does not make a text longer. -/
theorem dropBlank_length (t : Text) : (dropBlank t).length ≤ t.length := by
  fun_cases dropBlank t <;> simp

/-- The text that the raw text of a string denotes. -/
def unescape : Text → Text
  | [] => []
  | c :: r =>
    if c = '\\' then
      match CssString.takeHex 6 r, CssString.takeHex_rest_length 6 r with
      | (d :: ds, rest), _ =>
        have := dropBlank_length rest
        numbered (d :: ds) :: unescape (dropBlank rest)
      | ([], []), _ => []
      | ([], e :: rest), _ => if isBreak e then unescape rest else e :: unescape rest
    else c :: unescape r
termination_by t => t.length
decreasing_by all_goals (simp_all <;> omega)

/-- A quoted string of either kind: its parts. -/
def quotedParts : Reader (List StringPart) := do
  let quote ← Reader.next
  Reader.require (quote = '"' || quote = '\'')
  Reader.of (stringRest quote [])

/-- The rest of a quoted string that knows no interpolations: its raw text up to the closing quote,
and what follows. -/
def plainRest (quote : Char) : Text → Option (Text × Text)
  | [] => none
  | '\\' :: c :: r => (plainRest quote r).map fun (t, r) => ('\\' :: c :: t, r)
  | c :: r =>
    if c = quote then some ([], r)
    else if c = '\\' ∨ isBreak c then none
    else (plainRest quote r).map fun (t, r) => (c :: t, r)

/-- A quoted string that knows no interpolations: as it is spelled, and its text. -/
def plainString : Reader (Text × Text) := do
  let quote ← Reader.next
  Reader.require (quote = '"' || quote = '\'')
  let raw ← Reader.of (plainRest quote)
  return (quote :: raw ++ [quote], unescape raw)

/-! ## Blanks and comments -/

/-- The rest of a comment after its opening mark, up to and including the closing one. -/
def commentRest : Text → Option (Text × Text)
  | [] => none
  | '*' :: '/' :: r => some (['*', '/'], r)
  | c :: r => (commentRest r).map fun (t, r) => (c :: t, r)

/-- A comment that reaches the output. -/
def loudComment : Reader Text := do
  Reader.expect ['/', '*']
  return '/' :: '*' :: (← Reader.of commentRest)

/-- Takes blanks and comments; the argument bounds the number of comments. -/
def spacing : Nat → Reader Unit
  | 0 => pure ()
  | n + 1 => do
    let _ ← Reader.takeWhile isBlank
    if ← Reader.sees ['/', '/'] then
      let _ ← Reader.takeWhile fun c => !isBreak c
      spacing n
    else if ← Reader.sees ['/', '*'] then
      let _ ← loudComment
      spacing n

/-- Takes blanks and comments, and says whether there were any. -/
def space : Reader Bool := do
  let before := (← get).length
  spacing (before + 1)
  return (← get).length < before

/-! ## Identifiers -/

/-- Does an identifier start here? -/
def startsIdentifier : Text → Bool
  | '-' :: c :: _ => isNameStart c || c = '\\' || c = '-'
  | c :: _ => isNameStart c || c = '\\'
  | [] => false

/-- An escape in an identifier after its backslash, as it is kept: a character that identifiers
may hold stands for itself, a control character keeps its number, any other its backslash. -/
def identifierEscape (first : Bool) : Reader Text := do
  let (ds, rest) := CssString.takeHex 6 (← get)
  let c ←
    if ds.isEmpty then do
      let c ← Reader.next
      Reader.require !isBreak c
      pure c
    else do
      set (dropBlank rest)
      pure (numbered ds)
  let allowed := if first then isNameStart c else isNameChar c
  if allowed then return [c]
  else if c.toNat < 0x20 ∨ c.toNat = 0x7F ∨ (first ∧ c.isDigit) then
    return '\\' :: Text.hex 1 c.toNat ++ [' ']
  else return ['\\', c]

/-- The rest of an identifier; the first argument bounds its length. In a unit, a hyphen before a
digit or a point is not part of it. -/
def identifierBody (unit : Bool) : Nat → Reader Text
  | 0 => pure []
  | n + 1 => do
    match ← get with
    | '\\' :: r =>
      set r
      let e ← identifierEscape false
      return e ++ (← identifierBody unit n)
    | '-' :: c :: _ =>
      if unit ∧ (c.isDigit ∨ c = '.') then return []
      else
        let d ← Reader.next
        return d :: (← identifierBody unit n)
    | c :: r =>
      if isNameChar c then
        set r
        return c :: (← identifierBody unit n)
      else return []
    | [] => return []

/-- An identifier: two hyphens and anything, or an optional hyphen, a start, and the rest. -/
def identifierOf (unit : Bool) : Reader Text := do
  let n := (← get).length
  if ← Reader.accept ['-', '-'] then return '-' :: '-' :: (← identifierBody unit n)
  let hyphen := if ← Reader.accept ['-'] then ['-'] else []
  let c ← Reader.next
  let start ← if c = '\\' then identifierEscape true else do
    Reader.require (isNameStart c)
    pure [c]
  return hyphen ++ start ++ (← identifierBody unit n)

/-- An identifier. -/
def identifier : Reader Text := identifierOf false

/-- A name in the form in which it is looked up: low lines and hyphens are the same. -/
def lookupName (name : Text) : Text := name.map fun c => if c = '_' then '-' else c

/-- A variable: its name in the form in which it is looked up. -/
def variableName : Reader Text := do
  Reader.expect ['$']
  return lookupName (← identifier)

end StyleVars.Sass
