import StyleVars.Binary64.Basic
import StyleVars.Text.Basic

/-
  Decimal numerals of binary floating-point numbers: the nearest number to a numeral, a numeral
  with a fixed number of places, and the shortest numeral that still reads back as the number.
  All three are exact; the shortest numeral is found by trying one digit count after the other
  against the interval of reals that round to the number.
-/

namespace StyleVars.Binary64

/-- The number nearest to `± digits * 10 ^ exponent`, or nothing if it is too large. Exponents
far outside the format's range are settled without computing the power. -/
def ofDecimal? (negative : Bool) (digits : Nat) (exponent : Int) : Option Binary64 :=
  let size : Int := (Nat.toDigits 10 digits).length + exponent
  if digits = 0 ∨ size < -400 then some (zero negative)
  else if 400 < size then none
  else if 0 ≤ exponent then ofRatio? negative (digits * Nat.pow 10 exponent.toNat) 1
  else ofRatio? negative digits (Nat.pow 10 (-exponent).toNat)

/-- The magnitude times `10 ^ places`, rounded to the nearest natural number, ties to even. -/
def fixedUnits (places : Nat) (x : Binary64) : Nat :=
  let (n, d) := x.ratio
  roundQuotient (n * Nat.pow 10 places) d

/-- The magnitude with at most `places` decimal places, without trailing zeros. -/
def fixed (places : Nat) (x : Binary64) : Text :=
  let ds := Text.ofNat (fixedUnits places x)
  let ds := List.replicate (places + 1 - ds.length) '0' ++ ds
  let whole := ds.take (ds.length - places)
  let part := Text.dropEndWhile (· = '0') (ds.drop (ds.length - places))
  if part.isEmpty then whole else whole ++ '.' :: part

/-- The interval of reals that round to a positive number: both ends as numerators over the common
denominator that comes third; they belong to it exactly when the mantissa is even. -/
def roundingInterval (x : Binary64) : Nat × Nat × Nat :=
  let (n, d) := scale 1 4 x.exponent
  let below := if x.mantissa = fullMantissa ∧ -1074 < x.exponent then 1 else 2
  ((4 * x.mantissa - below) * n, (4 * x.mantissa + 2) * n, d)

/-- Does `digits * 10 ^ exponent` round to the positive number `x`? -/
def readsBack (x : Binary64) (digits : Nat) (exponent : Int) : Bool :=
  let (lo, hi, den) := roundingInterval x
  let (n, d) : Nat × Nat :=
    if 0 ≤ exponent then (digits * Nat.pow 10 exponent.toNat, 1)
    else (digits, Nat.pow 10 (-exponent).toNat)
  if x.mantissa % 2 = 0 then lo * d ≤ n * den && n * den ≤ hi * d
  else lo * d < n * den && n * den < hi * d

/-- The decimal exponent of the first digit of a positive number. -/
def decimalExponent (x : Binary64) : Int :=
  let (n, d) := x.ratio
  let atLeast (k : Int) : Bool :=
    if 0 ≤ k then d * Nat.pow 10 k.toNat ≤ n else d ≤ n * Nat.pow 10 (-k).toNat
  let guess : Int := ((n.log2 : Int) - d.log2 - 1) * 30103 / 100000 - 1
  let steps := (List.range 5).filter fun (i : Nat) => atLeast (guess + i)
  guess + (steps.length - 1 : Int)

/-- Of the two neighbours of a positive number among the multiples of `10 ^ exponent`, those that
read back, the nearer one first. -/
def neighbours (x : Binary64) (exponent : Int) : List Nat :=
  let (n, d) := x.ratio
  let (n, d) : Nat × Nat :=
    if 0 ≤ exponent then (n, d * Nat.pow 10 exponent.toNat)
    else (n * Nat.pow 10 (-exponent).toNat, d)
  let q := n / d
  let order := if roundQuotient n d = q then [q, q + 1] else [q + 1, q]
  order.filter fun m => x.readsBack m exponent

/-- The fewest decimal digits that read back as a positive number, the nearest such numeral:
digits without trailing zeros, and the exponent of ten of the last one. -/
def shortest (x : Binary64) : Text × Int :=
  let first := x.decimalExponent
  let tries := (List.range 17).map fun (i : Nat) => ((first - i : Int), x.neighbours (first - i))
  let (e, m) := match tries.find? (fun t => !t.2.isEmpty) with
    | some (e, m :: _) => (e, m)
    | _ => (first, 0)
  let ds := Text.ofNat m
  let kept := Text.dropEndWhile (· = '0') ds
  (kept, e + ((ds.length - kept.length : Nat) : Int))

end StyleVars.Binary64
