import StyleVars.Binary64.Decimal
import StyleVars.Sass.Color

/-
  Stylesheet values and their texts: as CSS writes them in a declaration, and as `inspect` shows
  them. Numbers have at most `decimalPlaces` decimals. A string in CSS is quoted doubly unless it
  holds a double quote and no single one.
-/

namespace StyleVars.Sass

/-- What stands between the members of a list. -/
inductive Separator where
  | space
  | comma
deriving DecidableEq, Repr

/-- A value. A color keeps its spelling. -/
inductive Value where
  | null
  | bool (b : Bool)
  | number (x : Binary64) (unit : Text)
  | string (t : Text) (quoted : Bool)
  | color (spelling : Text)
  | list (items : List Value) (separator : Separator) (bracketed : Bool)
  | map (entries : List (Value × Value))

/-- Why a compilation fails. -/
inductive Failure where
  | malformed
  | undefinedVariable (name : Text)
  | undefinedOperation
  | incompatibleUnits
  | outOfRange
  | duplicateKey
  | notCss
  | wrongArguments
  | importNotFound (reference : Text)
  | importLoop (reference : Text)
  | unreadable (reference : Text)
  | nestedTooDeep

namespace Failure

def message : Failure → Text
  | malformed => "The stylesheet is malformed.".toList
  | undefinedVariable name => "Undefined variable: $".toList ++ name
  | undefinedOperation => "Undefined operation.".toList
  | incompatibleUnits => "Incompatible units.".toList
  | outOfRange => "A number is out of range.".toList
  | duplicateKey => "Duplicate key.".toList
  | notCss => "A value is not valid in CSS.".toList
  | wrongArguments => "Wrong arguments.".toList
  | importNotFound r => "Can't find stylesheet to import: ".toList ++ r
  | importLoop r => "This file is already being loaded: ".toList ++ r
  | unreadable r => "Can't read stylesheet to import: ".toList ++ r
  | nestedTooDeep => "The stylesheet is nested too deep.".toList

end Failure

namespace Value

/-- How many decimals numbers are written with. -/
def decimalPlaces : Nat := 10

/-- The text of a number without its unit. -/
def numberText (x : Binary64) : Text :=
  let t := x.fixed decimalPlaces
  if x.negative ∧ t ≠ ['0'] then '-' :: t else t

/-- Does a control character need an escape between quotes? -/
def needsNumber (c : Char) : Bool := c.toNat < 0x20 && c ≠ '\t'

/-- The text between the quotes of a CSS string. -/
def escapeCss (quote : Char) : Text → Text
  | [] => []
  | c :: r =>
    if c = '\\' ∨ c = quote then '\\' :: c :: escapeCss quote r
    else if needsNumber c then
      let gap := match r with
        | n :: _ => if isHexDigit n ∨ n = ' ' ∨ n = '\t' then [' '] else []
        | [] => []
      '\\' :: Text.hex 1 c.toNat ++ gap ++ escapeCss quote r
    else c :: escapeCss quote r

/-- The text as a CSS string in quotes. -/
def quoteCss (t : Text) : Text :=
  let quote := if t.contains '"' && !t.contains '\'' then '\'' else '"'
  quote :: escapeCss quote t ++ [quote]

/-- The text between the members of a list. -/
def separatorText : Separator → Text
  | .space => " ".toList
  | .comma => ", ".toList

/-- Is nothing written for the value? -/
def isBlank : Value → Bool
  | .null => true
  | .string t quoted => !quoted && t.isEmpty
  | .list items _ bracketed => !bracketed && allBlank items
  | _ => false
where
  /-- Is nothing written for any member? -/
  allBlank : List Value → Bool
    | [] => true
    | v :: vs => isBlank v && allBlank vs

/-- What stands between the units of a product. -/
def unitMark : Char := '*'

mutual

/-- The text of a value in CSS. Maps, empty lists and numbers with several units have none. -/
def css : Value → Except Failure Text
  | .null => .ok []
  | .bool b => .ok (if b then "true".toList else "false".toList)
  | .number x unit =>
    if unit.contains unitMark then .error .notCss else .ok (numberText x ++ unit)
  | .string t quoted => .ok (if quoted then quoteCss t else t)
  | .color spelling => .ok spelling
  | .list items separator bracketed =>
    if items.isEmpty ∧ !bracketed then .error .notCss
    else
      (cssItems items).map fun ts =>
        let t := Text.joinWith (separatorText separator) ts
        if bracketed then '[' :: t ++ [']'] else t
  | .map _ => .error .notCss

/-- The texts of the members for which something is written. -/
def cssItems : List Value → Except Failure (List Text)
  | [] => .ok []
  | v :: vs => do
    if isBlank v then cssItems vs
    else
      let t ← css v
      return t :: (← cssItems vs)

end

/-- The text of a value inside an interpolation: a string stands for itself. -/
def interpolated : Value → Except Failure Text
  | .string t _ => .ok t
  | v => v.css

/-- Does a member of a list need parentheses to be told from the list itself? -/
def needsParens (outer : Separator) : Value → Bool
  | .list items separator bracketed =>
    !bracketed && 1 < items.length && (outer = .space || separator = .comma)
  | _ => false

mutual

/-- The text of a value as `inspect` shows it. -/
def inspect : Value → Text
  | .null => "null".toList
  | .bool b => if b then "true".toList else "false".toList
  | .number x unit => numberText x ++ unit
  | .string t quoted => if quoted then quoteCss t else t
  | .color spelling => spelling
  | .list items separator bracketed =>
    let t := Text.joinWith (separatorText separator) (inspectItems separator items)
    let t := if separator = .comma ∧ items.length = 1 then t ++ [','] else t
    if bracketed then '[' :: t ++ [']']
    else if items.isEmpty then "()".toList
    else if separator = .comma ∧ items.length = 1 then '(' :: t ++ [')']
    else t
  | .map entries => '(' :: Text.joinWith ", ".toList (inspectEntries entries) ++ [')']

/-- The texts of the members of a list. -/
def inspectItems (separator : Separator) : List Value → List Text
  | [] => []
  | v :: vs =>
    let t := inspect v
    (if needsParens separator v then '(' :: t ++ [')'] else t) :: inspectItems separator vs

/-- The texts of the entries of a map. -/
def inspectEntries : List (Value × Value) → List Text
  | [] => []
  | (k, v) :: es => (inspect k ++ ": ".toList ++ inspect v) :: inspectEntries es

end

/-- The decimals in which two equal numbers agree. -/
def equalityPlaces : Nat := 11

/-- Have two numbers the same value, up to the last decimals? -/
def sameNumber (x y : Binary64) : Bool :=
  let m := x.fixedUnits equalityPlaces
  m == y.fixedUnits equalityPlaces && (m == 0 || x.negative == y.negative)

mutual

/-- Are two values equal? Quotes do not count, and an empty list is an empty map. -/
def same : Value → Value → Bool
  | .null, w => match w with
    | .null => true
    | _ => false
  | .bool b, w => match w with
    | .bool c => b == c
    | _ => false
  | .number x unit, w => match w with
    | .number y other => unit == other && sameNumber x y
    | _ => false
  | .string t _, w => match w with
    | .string u _ => t == u
    | _ => false
  | .color s, w => match w with
    | .color t => s == t || Color.ofSpelling? s == Color.ofSpelling? t
    | _ => false
  | .list items separator bracketed, w => match w with
    | .list others otherSeparator otherBracketed =>
      (separator == otherSeparator || items.length < 2) && bracketed == otherBracketed
        && sameItems items others
    | .map entries => items.isEmpty && entries.isEmpty
    | _ => false
  | .map entries, w => match w with
    | .map others => entries.length == others.length && sameEntries entries others
    | .list others _ _ => entries.isEmpty && others.isEmpty
    | _ => false

/-- Are the members of two lists equal one by one? -/
def sameItems : List Value → List Value → Bool
  | [], ws => ws.isEmpty
  | v :: vs, ws => match ws with
    | [] => false
    | w :: ws => same v w && sameItems vs ws

/-- Is every entry of one map an entry of the other? -/
def sameEntries : List (Value × Value) → List (Value × Value) → Bool
  | [], _ => true
  | (k, v) :: es, others =>
    others.any (fun e => same k e.1 && same v e.2) && sameEntries es others

end

end Value
end StyleVars.Sass
