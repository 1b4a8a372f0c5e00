import StyleVars.Sass.Expression
import StyleVars.Sass.Lookup

/-
  Reading stylesheets: the statements of a file and of the blocks in it. The definitions of mixins
  and functions are passed over; only the name of a function is kept.
-/

namespace StyleVars.Sass

/-- The flags after the value of an assignment: is it for unset variables only, and is it global?
The argument bounds their number. -/
def flags : Nat → Reader (Bool × Bool)
  | 0 => failure
  | n + 1 => do
    let _ ← space
    if ← Reader.accept ['!'] then
      let name ← identifier
      let (ifUnset, inGlobal) ← flags n
      if name = "default".toList then return (true, inGlobal)
      else if name = "global".toList then return (ifUnset, true)
      else failure
    else return (false, false)

/-- The end of a statement: a semicolon, or the end of the block or file. -/
def endStatement : Reader Unit := do
  let _ ← space
  if ← Reader.accept [';'] then return ()
  let next ← Reader.peek
  Reader.require (next.isNone || next = some '\x7d')

/-- An assignment. -/
def assignment : Reader Statement := do
  let name ← variableName
  let _ ← space
  Reader.expect [':']
  let _ ← space
  let value ← expression
  let (ifUnset, inGlobal) ← flags ((← get).length + 1)
  endStatement
  return .assign name value ifUnset inGlobal

/-- References with commas between them; the argument bounds their number. -/
def references : Nat → Reader (List Reference)
  | 0 => failure
  | n + 1 => do
    let _ ← space
    let (spelling, target) ← plainString
    let r : Reference := ⟨spelling, target, Lookup.isPlainCss target⟩
    let _ ← space
    if ← Reader.accept [','] then return r :: (← references n) else return [r]

/-- What precedes the opening brace of a block. Comments count as a blank. The argument bounds the
number of steps. -/
def preamble : Nat → Reader Text
  | 0 => failure
  | n + 1 => do
    if (← Reader.sees ['/', '/']) || (← Reader.sees ['/', '*']) then
      let _ ← space
      return ' ' :: (← preamble n)
    let before ← get
    match before with
    | [] => failure
    | '\x7b' :: _ => return []
    | '\\' :: c :: r => do
      set r
      return '\\' :: c :: (← preamble n)
    | c :: r =>
      if c = '\x7d' ∨ c = ';' then failure
      else if c = '"' ∨ c = '\'' then do
        let _ ← quotedParts
        let taken := before.take (before.length - (← get).length)
        return taken ++ (← preamble n)
      else do
        set r
        return c :: (← preamble n)

/-- Passes over the rest of a block with so many braces open inside it. The first argument bounds
the number of steps. -/
def passBlock : Nat → Nat → Reader Unit
  | 0, _ => failure
  | n + 1, level => do
    let _ ← space
    match ← Reader.peek with
    | none => failure
    | some c =>
      if c = '"' ∨ c = '\'' then do
        let _ ← quotedParts
        passBlock n level
      else do
        let _ ← Reader.next
        if c = '\\' then do
          let _ ← Reader.next
          passBlock n level
        else if c = '\x7b' then passBlock n (level + 1)
        else if c ≠ '\x7d' then passBlock n level
        else if level = 0 then return ()
        else passBlock n (level - 1)

/-- The definition of a mixin or function after its keyword: the name it defines. -/
def definition : Reader Text := do
  let _ ← space
  let name ← identifier
  let _ ← preamble ((← get).length + 1)
  Reader.expect ['\x7b']
  passBlock ((← get).length + 1) 0
  return lookupName name

/-- The statements that a rule starting with `@` stands for. -/
def atRule : Reader (List Statement) := do
  Reader.expect ['@']
  let name := String.ofList (← identifier)
  if name = "import" then
    let rs ← references ((← get).length + 1)
    endStatement
    return rs.map .importSheet
  else if name = "charset" then
    let _ ← space
    let _ ← plainString
    endStatement
    return []
  else if name = "mixin" then
    let _ ← definition
    return []
  else if name = "function" then return [.defineFunction (← definition)]
  else failure

/-- A text without blanks at its ends, every run of blanks in it a single one. -/
def tidy (t : Text) : Text :=
  let rec go (pending : Bool) : Text → Text
    | [] => []
    | c :: r =>
      if isBlank c then go true r else if pending then ' ' :: c :: go false r else c :: go false r
  go false (t.dropWhile isBlank)

/-- A declaration. The value of a custom property is kept as it is. -/
def declaration : Reader Statement := do
  let property ← identifier
  let _ ← space
  Reader.expect [':']
  if property.take 2 = ['-', '-'] then
    let raw ← Reader.takeWhile fun c => c ≠ ';' && c ≠ '\x7d'
    endStatement
    return .verbatim property (tidy raw)
  else
    let _ ← space
    let value ← expression
    endStatement
    return .declaration property value

/-- The statements of a file, or of a block after its opening brace up to the closing one. The
first argument bounds the number of steps. -/
def statements : Nat → Bool → Reader (List Statement)
  | 0, _ => failure
  | n + 1, inBlock => do
    let _ ← Reader.takeWhile isBlank
    if ← Reader.sees ['/', '/'] then
      let _ ← Reader.takeWhile fun c => !isBreak c
      statements n inBlock
    else if ← Reader.sees ['/', '*'] then
      let t ← loudComment
      return .comment t :: (← statements n inBlock)
    else
      match ← Reader.peek with
      | none => do
        Reader.require !inBlock
        return []
      | some '\x7d' => do
        Reader.require inBlock
        let _ ← Reader.next
        return []
      | some ';' => do
        let _ ← Reader.next
        statements n inBlock
      | some '$' => do
        let s ← assignment
        return s :: (← statements n inBlock)
      | some '@' => do
        let ss ← atRule
        return ss ++ (← statements n inBlock)
      | some _ => do
        let start ← get
        match (preamble (start.length + 1)).run start with
        | some (selector, _ :: rest) => do
          Reader.require !(tidy selector).isEmpty
          set rest
          let body ← statements n true
          return .rule (tidy selector) body :: (← statements n inBlock)
        | _ => do
          Reader.require inBlock
          let s ← declaration
          return s :: (← statements n inBlock)

/-- The statements of a stylesheet. A byte order mark in front of it is ignored. -/
def readSheet (t : Text) : Option (List Statement) :=
  let t := (Text.stripPrefix? ['\uFEFF'] t).getD t
  (statements (t.length + 2) false).whole? t

end StyleVars.Sass
