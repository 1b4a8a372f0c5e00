import StyleVars.Sass.Lexical
import StyleVars.Sass.Syntax

/-
  Reading expressions. A comma binds weaker than a blank, and both bind weaker than the operators.
  A hyphen after a blank starts a new member of the list when a digit or a name follows it, and is
  the operator otherwise. The first argument of each reader bounds the number of nested calls.
-/

namespace StyleVars.Sass

/-- Can no expression start with this character, so that a list ends before it? -/
def endsList (t : Text) : Bool :=
  match t with
  | [] => true
  | '!' :: c :: _ => !(c = 'i' || c = 'I' || isBlank c)
  | c :: _ => ")]\x7d\x7b;,:!".toList.contains c

/-- Does a number start here, its sign apart? -/
def startsNumber : Text → Bool
  | '.' :: c :: _ => c.isDigit
  | c :: _ => c.isDigit
  | [] => false

/-- The exponent of a number, if there is one. -/
def numberExponent : Reader Int := do
  match ← get with
  | c :: r =>
    if c = 'e' ∨ c = 'E' then
      let (negative, r) := match r with
        | '+' :: r => (false, r)
        | '-' :: r => (true, r)
        | _ => (false, r)
      let (ds, r) := r.span Char.isDigit
      if ds.isEmpty then return 0
      else
        set r
        let n : Int := numberOfDigits 10 ds
        return if negative then -n else n
    else return 0
  | [] => return 0

/-- The unit of a number, if there is one. -/
def numberUnit : Reader Text := do
  if ← Reader.accept ['%'] then return ['%']
  let t ← get
  if startsIdentifier t ∧ t.take 2 ≠ ['-', '-'] then identifierOf true else return []

/-- A number with its sign and unit. -/
def numberLiteral : Reader Expr := do
  let negative ← Reader.accept ['-']
  if !negative then let _ ← Reader.accept ['+']
  let whole ← Reader.takeWhile Char.isDigit
  let part ← if startsNumber (← get) then do
      let _ ← Reader.next
      Reader.takeWhile Char.isDigit
    else pure []
  Reader.require (!(whole.isEmpty && part.isEmpty))
  let exponent ← numberExponent
  let x ← liftM (Binary64.ofDecimal? negative (numberOfDigits 10 (whole ++ part))
    (exponent - part.length))
  return .literal (.number x (← numberUnit))

/-- The lengths of hexadecimal colors. -/
def colorLengths : List Nat := [3, 4, 6, 8]

/-- A hexadecimal color, or a name with a number sign in front of it. -/
def hashLiteral : Reader Expr := do
  Reader.expect ['#']
  if ((← get).head?.map Char.isDigit).getD false then
    let ds ← Reader.takeWhile isHexDigit
    Reader.require (colorLengths.contains ds.length)
    return .literal (.color ('#' :: ds))
  else
    let name ← identifier
    if (Color.ofDigits? name).isSome then return .literal (.color ('#' :: name))
    else return .literal (.string ('#' :: name) false)

/-- What an identifier means on its own. -/
def wordValue (name : Text) : Value :=
  if name = "true".toList then .bool true
  else if name = "false".toList then .bool false
  else if name = "null".toList then .null
  else if (Color.ofName? name).isSome then .color name
  else .string name false

mutual

/-- A list with commas, or its one member. -/
def commaList : Nat → Reader Expr
  | 0 => failure
  | n + 1 => do
    let (items, commas) ← commaItems n
    match items, commas with
    | [e], false => return e
    | _, _ => return .list items .comma false

/-- Members with commas between them, and whether there was a comma. -/
def commaItems : Nat → Reader (List Expr × Bool)
  | 0 => failure
  | n + 1 => do
    let e ← spaceList n
    if ← Reader.accept [','] then
      let _ ← space
      if endsList (← get) then return ([e], true)
      let (es, _) ← commaItems n
      return (e :: es, true)
    else return ([e], false)

/-- A list with blanks, or its one member. -/
def spaceList : Nat → Reader Expr
  | 0 => failure
  | n + 1 => do
    match ← spaceItems n with
    | [e] => return e
    | es => return .list es .space false

/-- Members with blanks between them. -/
def spaceItems : Nat → Reader (List Expr)
  | 0 => failure
  | n + 1 => do
    let e ← sum n
    let _ ← space
    if endsList (← get) then return [e] else return e :: (← spaceItems n)

/-- Sums and differences. -/
def sum : Nat → Reader Expr
  | 0 => failure
  | n + 1 => do sumRest n (← product n)

/-- The rest of a sum after its first part. -/
def sumRest : Nat → Expr → Reader Expr
  | 0, _ => failure
  | n + 1, e => do
    let before ← get
    let spaced ← space
    match ← get with
    | '+' :: r => do
      set r
      let _ ← space
      sumRest n (.binary .plus e (← product n))
    | '-' :: r =>
      if (startsNumber r ∧ spaced) ∨ (!startsNumber r ∧ startsIdentifier ('-' :: r)) then do
        set before
        return e
      else do
        set r
        let _ ← space
        sumRest n (.binary .minus e (← product n))
    | _ => do
      set before
      return e

/-- Products. -/
def product : Nat → Reader Expr
  | 0 => failure
  | n + 1 => do productRest n (← operand n)

/-- The rest of a product after its first part. -/
def productRest : Nat → Expr → Reader Expr
  | 0, _ => failure
  | n + 1, e => do
    let before ← get
    let _ ← space
    if ← Reader.accept ['*'] then do
      let _ ← space
      productRest n (.binary .times e (← operand n))
    else do
      set before
      return e

/-- An operand. -/
def operand : Nat → Reader Expr
  | 0 => failure
  | n + 1 => do
    let t ← get
    match t with
    | [] => failure
    | '(' :: _ => parens n
    | '[' :: _ => brackets n
    | '"' :: _ => quotedString n
    | '\'' :: _ => quotedString n
    | '$' :: _ => .variable <$> variableName
    | '#' :: _ => hashLiteral
    | '!' :: r => do
      set r
      let _ ← space
      let name ← identifier
      Reader.require (name.map Char.toLower = "important".toList)
      return .literal (.string "!important".toList false)
    | '+' :: r =>
      if startsNumber r then numberLiteral
      else do
        set r
        let _ ← space
        operand n
    | '-' :: r =>
      if startsNumber r then numberLiteral
      else if startsIdentifier t then word n
      else do
        set r
        let _ ← space
        .negate <$> operand n
    | _ => if startsNumber t then numberLiteral else word n

/-- An identifier, or a call of the function it names. -/
def word : Nat → Reader Expr
  | 0 => failure
  | n + 1 => do
    let name ← identifier
    if ← Reader.accept ['('] then
      let _ ← space
      if ← Reader.accept [')'] then return .call name []
      let (es, _) ← commaItems n
      Reader.expect [')']
      return .call name es
    else return .literal (wordValue name)

/-- What stands in parentheses: nothing, a map, a list, or an expression. -/
def parens : Nat → Reader Expr
  | 0 => failure
  | n + 1 => do
    Reader.expect ['(']
    let _ ← space
    if ← Reader.accept [')'] then return .list [] .space false
    let e ← spaceList n
    if ← Reader.accept [':'] then
      let _ ← space
      .map <$> mapRest n e
    else if ← Reader.accept [','] then
      let _ ← space
      if ← Reader.accept [')'] then return .list [e] .comma false
      let (es, _) ← commaItems n
      Reader.expect [')']
      return .list (e :: es) .comma false
    else
      Reader.expect [')']
      return e

/-- The entries of a map after its first key and colon. -/
def mapRest : Nat → Expr → Reader (List (Expr × Expr))
  | 0, _ => failure
  | n + 1, k => do
    let v ← spaceList n
    if ← Reader.accept [','] then
      let _ ← space
      if ← Reader.accept [')'] then return [(k, v)]
      let next ← spaceList n
      Reader.expect [':']
      let _ ← space
      return (k, v) :: (← mapRest n next)
    else
      Reader.expect [')']
      return [(k, v)]

/-- A list in brackets. -/
def brackets : Nat → Reader Expr
  | 0 => failure
  | n + 1 => do
    Reader.expect ['[']
    let _ ← space
    if ← Reader.accept [']'] then return .list [] .space true
    let es ← spaceItems n
    if ← Reader.accept [','] then
      let first := match es with
        | [e] => e
        | _ => .list es .space false
      let _ ← space
      if ← Reader.accept [']'] then return .list [first] .comma true
      let (rest, _) ← commaItems n
      Reader.expect [']']
      return .list (first :: rest) .comma true
    else
      Reader.expect [']']
      return .list es .space true

/-- A quoted string. -/
def quotedString : Nat → Reader Expr
  | 0 => failure
  | n + 1 => do .quoted <$> stringParts n (← quotedParts)

/-- The parts of a quoted string as expressions. -/
def stringParts : Nat → List StringPart → Reader (List Expr)
  | 0, _ => failure
  | _ + 1, [] => return []
  | n + 1, .text raw :: ps =>
    return .literal (.string (unescape raw) false) :: (← stringParts n ps)
  | n + 1, .interpolation source :: ps => do
    let inner : Reader Expr := do
      let _ ← space
      commaList n
    let e ← liftM (inner.whole? source)
    return e :: (← stringParts n ps)

end

/-- Enough nested calls for any expression in a text of this length. -/
def callsFor (t : Text) : Nat := 8 * t.length + 16

/-- An expression, and the blanks after it. -/
def expression : Reader Expr := do commaList (callsFor (← get))

end StyleVars.Sass
