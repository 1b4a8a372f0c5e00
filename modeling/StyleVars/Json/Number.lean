import StyleVars.Json.Basic
import StyleVars.Binary64.Decimal

/-
  JSON number literals. An integer literal in the range of 64-bit integers stays an integer; any
  other literal becomes a floating-point number: its leading digits are gathered in a 64-bit
  significand, which is then scaled by one power of ten. A literal too large for the format is
  refused, one too small becomes zero.

  Floating-point numbers are written with the fewest digits that read back, positionally from
  `1e-5` up to `1e16` and with an exponent outside.
-/

namespace StyleVars.Json

/-- The largest significand. -/
def significandLimit : Nat := 0xFFFFFFFFFFFFFFFF

/-- The largest power of ten a significand is scaled by at once. -/
def powerLimit : Nat := 308

/-- Appends digits to a significand as long as they fit; also says how many did. -/
def gather (significand : Nat) : Text → Nat × Nat
  | [] => (significand, 0)
  | c :: cs =>
    let next := significand * 10 + (digitValue? 10 c).getD 0
    if significandLimit < next then (significand, 0)
    else let (s, k) := gather next cs; (s, k + 1)

/-- Scales by a power of ten, a factor `10 ^ 308` at a time below the format's range. The first
argument bounds the steps: after three such divisions nothing is left of any significand. -/
def scaleByTen : Nat → Binary64 → Int → Option Binary64
  | 0, x, _ => some (Binary64.zero x.negative)
  | n + 1, x, e =>
    let power (k : Nat) := Binary64.ofDecimal? false 1 k
    if e.natAbs ≤ powerLimit then
      (power e.natAbs).bind fun p => if 0 ≤ e then x.mul? p else x.div? p
    else if x.mantissa = 0 then some x
    else if 0 < e then none
    else
      ((power powerLimit).bind x.div?).bind fun y => scaleByTen n y (e + powerLimit)

/-- The number written with these digits before and after the point and this exponent. -/
def floatOf? (negative : Bool) (whole part : Text) (exponent : Int) : Option Binary64 :=
  let (s, k) := gather 0 whole
  let (s, l) := gather s part
  let e : Int := exponent + (whole.length - k : Nat) - l
  (Binary64.ofNat? negative s).bind fun x => scaleByTen 4 x e

/-- Splits off the leading decimal digits. -/
def digits (t : Text) : Text × Text := t.span Char.isDigit

/-- An exponent part, if there is one: its value and what follows. -/
def exponentPart (t : Text) : Option (Option Int × Text) :=
  match t with
  | c :: r =>
    if c = 'e' ∨ c = 'E' then
      let (negative, r) := match r with
        | '+' :: r => (false, r)
        | '-' :: r => (true, r)
        | _ => (false, r)
      let (ds, r) := digits r
      let n := numberOfDigits 10 ds
      if ds.isEmpty then none else some (some (if negative then -n else n), r)
    else some (none, t)
  | [] => some (none, t)

/-- A fraction part, if there is one: its digits and what follows. -/
def fractionPart (t : Text) : Option (Option Text × Text) :=
  match t with
  | '.' :: r => let (ds, r) := digits r; if ds.isEmpty then none else some (some ds, r)
  | _ => some (none, t)

/-- The three parts of an unsigned literal (digits, fraction digits, exponent) and what follows.
A leading zero stands alone. -/
def numberParts (t : Text) : Option ((Text × Option Text × Option Int) × Text) :=
  let (whole, r) := digits t
  if whole.isEmpty ∨ (whole.head? = some '0' ∧ 1 < whole.length) then none
  else
    (fractionPart r).bind fun (part, r) =>
      (exponentPart r).map fun (exponent, r) => ((whole, part, exponent), r)

/-- The value of an integer literal. -/
def integerOf? (negative : Bool) (whole : Text) : Option Json :=
  let n := numberOfDigits 10 whole
  if negative then
    if 0 < n ∧ n ≤ 0x8000000000000000 then some (.integer (-n))
    else (floatOf? true whole [] 0).map .float
  else if n ≤ significandLimit then some (.integer n)
  else (floatOf? false whole [] 0).map .float

/-- A number literal and what follows it. -/
def number (t : Text) : Option (Json × Text) :=
  let (negative, t) := match t with
    | '-' :: r => (true, r)
    | _ => (false, t)
  match numberParts t with
  | none => none
  | some ((whole, none, none), r) => (integerOf? negative whole).map (·, r)
  | some ((whole, part, exponent), r) =>
    (floatOf? negative whole (part.getD []) (exponent.getD 0)).map (.float ·, r)

/-- The decimal exponents of numbers written positionally, first and last. -/
def plainExponents : Int × Int := (-5, 15)

/-- The text of a floating-point number. -/
def floatText (x : Binary64) : Text :=
  let sign := if x.negative then ['-'] else []
  if x.mantissa = 0 then sign ++ "0.0".toList
  else
    let (ds, last) := x.shortest
    let first := last + ds.length - 1
    sign ++
      if plainExponents.1 ≤ first ∧ first ≤ plainExponents.2 then
        if 0 ≤ last then ds ++ List.replicate last.toNat '0' ++ ".0".toList
        else if 0 ≤ first then ds.take (first.toNat + 1) ++ '.' :: ds.drop (first.toNat + 1)
        else "0.".toList ++ List.replicate (-first - 1).toNat '0' ++ ds
      else
        let tail := if ds.length = 1 then [] else '.' :: ds.drop 1
        let mark := if first < 0 then "e-".toList else "e+".toList
        ds.take 1 ++ tail ++ mark ++ Text.ofNat first.natAbs

end StyleVars.Json
