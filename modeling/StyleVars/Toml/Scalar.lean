import StyleVars.Binary64.Decimal
import StyleVars.Text.Reader

/-
  The scalars of TOML: strings of four kinds, integers, floating-point numbers, and dates and
  times. Strings give their text. Numbers and moments are only checked: integers fit 64 bits,
  floating-point numbers are finite unless spelled otherwise, dates exist.
-/

namespace StyleVars.Toml

/-- A blank inside a line. -/
def isBlank (c : Char) : Bool := c = ' ' || c = '\t'

/-- A character that may stand in comments and strings: a tab, or anything but a control. -/
def isTextChar (c : Char) : Bool := c = '\t' || (0x20 ≤ c.toNat && c.toNat ≠ 0x7F)

/-! ## Strings -/

/-- The character a one-letter escape stands for. -/
def shortEscape? : Char → Option Char
  | '"' => some '"'
  | '\\' => some '\\'
  | 'b' => some '\x08'
  | 'f' => some '\x0c'
  | 'n' => some '\n'
  | 'r' => some '\r'
  | 't' => some '\t'
  | _ => none

/-- Where a reader stands inside a string: in its text, after a backslash that ends a line, or
inside a character number with so many digits still to come. -/
inductive Inside where
  | text
  | gap
  | number (left value : Nat)
deriving DecidableEq

/-- Does a line end here? -/
def atLineEnd : Text → Bool
  | '\n' :: _ => true
  | '\r' :: '\n' :: _ => true
  | _ => false

/-- At the closing quotes of a multi-line string whose first three are gone: up to two more belong
to the text. -/
def closingQuotes (quote : Char) (r : Text) : Text × Text :=
  let extra := (r.take 2).takeWhile (· = quote)
  (extra, r.drop extra.length)

/-- The rest of a string with escapes after its opening quotes. -/
def basicRest (multiline : Bool) : Inside → Text → Option (Text × Text)
  | _, [] => none
  | .number left value, c :: r =>
    match digitValue? 16 c with
    | none => none
    | some d =>
      if left = 0 then
        match scalar? (value * 16 + d) with
        | none => none
        | some ch => (basicRest multiline .text r).map fun (t, r) => (ch :: t, r)
      else basicRest multiline (.number (left - 1) (value * 16 + d)) r
  | place, c :: r =>
    if place = .gap ∧ (isBlank c ∨ atLineEnd (c :: r)) then basicRest multiline .gap r
    else if c = '"' then
      if !multiline then some ([], r)
      else if ['"', '"'].isPrefixOf r then some (closingQuotes '"' (r.drop 2))
      else (basicRest multiline .text r).map fun (t, r) => ('"' :: t, r)
    else if c = '\\' then
      match r with
      | [] => none
      | e :: s =>
        if e = 'u' then basicRest multiline (.number 3 0) s
        else if e = 'U' then basicRest multiline (.number 7 0) s
        else if multiline ∧ atLineEnd (r.dropWhile isBlank) then
          if e = '\r' then basicRest multiline .gap (e :: s) else basicRest multiline .gap s
        else match shortEscape? e with
          | none => none
          | some ch => (basicRest multiline .text s).map fun (t, r) => (ch :: t, r)
    else if atLineEnd (c :: r) then
      if !multiline then none
      else if c = '\r' then basicRest multiline .text r
      else (basicRest multiline .text r).map fun (t, r) => ('\n' :: t, r)
    else if isTextChar c then (basicRest multiline .text r).map fun (t, r) => (c :: t, r)
    else none

/-- The rest of a string without escapes after its opening quotes. -/
def literalRest (multiline : Bool) : Text → Option (Text × Text)
  | [] => none
  | c :: r =>
    if c = '\'' then
      if !multiline then some ([], r)
      else if ['\'', '\''].isPrefixOf r then some (closingQuotes '\'' (r.drop 2))
      else (literalRest multiline r).map fun (t, r) => ('\'' :: t, r)
    else if atLineEnd (c :: r) then
      if !multiline then none
      else if c = '\r' then literalRest multiline r
      else (literalRest multiline r).map fun (t, r) => ('\n' :: t, r)
    else if isTextChar c then (literalRest multiline r).map fun (t, r) => (c :: t, r)
    else none

/-- A line break right after the opening quotes of a multi-line string is not part of it. -/
def dropFirstBreak : Text → Text
  | '\n' :: r => r
  | '\r' :: '\n' :: r => r
  | t => t

/-- A string on one line. -/
def lineString : Text → Option (Text × Text)
  | '"' :: r => basicRest false .text r
  | '\'' :: r => literalRest false r
  | _ => none

/-- A string of any kind. -/
def string : Text → Option (Text × Text)
  | '"' :: '"' :: '"' :: r => basicRest true .text (dropFirstBreak r)
  | '\'' :: '\'' :: '\'' :: r => literalRest true (dropFirstBreak r)
  | t => lineString t

/-! ## Numbers -/

/-- Digits of a base, with single low lines allowed between them. -/
def digitRun (base : Nat) : Reader Text := do
  let run ← Reader.takeWhile fun c => (digitValue? base c).isSome || c = '_'
  Reader.require (run.head? ≠ some '_' && run.getLast? ≠ some '_' && !run.isEmpty)
  Reader.require (!((run.zip (run.drop 1)).contains ('_', '_')))
  return run.filter (· ≠ '_')

/-- A sign, if there is one: is it a minus? -/
def sign : Reader Bool := do
  if ← Reader.accept ['-'] then return true
  let _ ← Reader.accept ['+']
  return false

/-- Integers are below this limit, and not below its negative. -/
def integerLimit : Nat := 0x8000000000000000

/-- An integer in another base than ten, after its mark. -/
def basedInteger (base : Nat) : Reader Unit := do
  let ds ← digitRun base
  Reader.require (numberOfDigits base ds < integerLimit)

/-- The part of a number before the point: no leading zeros. -/
def wholePart : Reader Text := do
  let ds ← digitRun 10
  Reader.require (ds.length = 1 || ds.head? ≠ some '0')
  return ds

/-- A number in base ten. A floating-point number must not round to positive infinity. -/
def decimalNumber : Reader Unit := do
  let negative ← sign
  if (← Reader.accept "inf".toList) || (← Reader.accept "nan".toList) then return ()
  let whole ← wholePart
  let part ← if ← Reader.accept ['.'] then some <$> digitRun 10 else pure none
  let exponent ←
    if (← Reader.accept ['e']) || (← Reader.accept ['E']) then do
      let down ← sign
      let n : Int := numberOfDigits 10 (← digitRun 10)
      pure (some (if down then -n else n))
    else pure none
  match part, exponent with
  | none, none =>
    Reader.require (numberOfDigits 10 whole < integerLimit + if negative then 1 else 0)
  | _, _ =>
    let part := part.getD []
    let value := Binary64.ofDecimal? negative (numberOfDigits 10 (whole ++ part))
      (exponent.getD 0 - part.length)
    Reader.require (negative || value.isSome)

/-- A number of any kind. -/
def number : Reader Unit := do
  if ← Reader.accept "0x".toList then basedInteger 16
  else if ← Reader.accept "0o".toList then basedInteger 8
  else if ← Reader.accept "0b".toList then basedInteger 2
  else decimalNumber

/-! ## Dates and times -/

/-- A number of exactly `n` digits within bounds. -/
def fixedNumber (n low high : Nat) : Reader Nat := do
  let t ← get
  let ds := t.take n
  Reader.require (ds.length = n && ds.all Char.isDigit)
  let v := numberOfDigits 10 ds
  Reader.require (low ≤ v && v ≤ high)
  set (t.drop n)
  return v

/-- The number of days of a month. -/
def daysIn (year month : Nat) : Nat :=
  let leap := year % 4 = 0 ∧ (year % 100 ≠ 0 ∨ year % 400 = 0)
  if month = 2 then if leap then 29 else 28
  else if [4, 6, 9, 11].contains month then 30 else 31

/-- A date that exists. -/
def date : Reader Unit := do
  let year ← fixedNumber 4 0 9999
  Reader.expect ['-']
  let month ← fixedNumber 2 1 12
  Reader.expect ['-']
  let _ ← fixedNumber 2 1 (daysIn year month)

/-- A time of day, with a leap second allowed. -/
def time : Reader Unit := do
  let _ ← fixedNumber 2 0 23
  Reader.expect [':']
  let _ ← fixedNumber 2 0 59
  Reader.expect [':']
  let _ ← fixedNumber 2 0 60
  if ← Reader.accept ['.'] then
    let _ ← Reader.takeWhile1 Char.isDigit

/-- The offset of a time zone. -/
def offset : Reader Unit := do
  if (← Reader.accept ['Z']) || (← Reader.accept ['z']) then return ()
  if (← Reader.accept ['+']) || (← Reader.accept ['-']) then
    let _ ← fixedNumber 2 0 23
    Reader.expect [':']
    let _ ← fixedNumber 2 0 59

/-- The mark between date and time, and the time. -/
def timeAfterDate : Reader Unit := do
  let c ← Reader.next
  Reader.require (c = 'T' || c = 't' || c = ' ')
  time
  offset

/-- A date, a time of day, or both. -/
def moment : Reader Unit := (do date; let _ ← Reader.attempt timeAfterDate) <|> time

end StyleVars.Toml
