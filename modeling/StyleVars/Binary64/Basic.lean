/-
  Numbers in the 64-bit binary floating-point format, as exact mathematics: a sign and
  `mantissa * 2 ^ exponent`. Every operation computes the exact quotient and rounds it once, to
  the nearest representable value and on a tie to the even mantissa. Values too large for the
  format are refused, so no infinity or not-a-number arises.
-/

namespace StyleVars

/-- A finite number `± mantissa * 2 ^ exponent`. The operations below keep the mantissa under
`2 ^ 53` and the exponent at least `-1074`, and use a full mantissa whenever they can. -/
structure Binary64 where
  negative : Bool
  mantissa : Nat
  exponent : Int
deriving DecidableEq, Repr

namespace Binary64

/-- The least mantissa that has all 53 bits. -/
def fullMantissa : Nat := Nat.pow 2 52

/-- Zero, with either sign. -/
def zero (negative : Bool) : Binary64 := ⟨negative, 0, -1074⟩

/-- The quotient rounded to the nearest natural number, ties to the even one. -/
def roundQuotient (num den : Nat) : Nat :=
  let q := num / den
  let r := num % den
  if den < 2 * r ∨ (2 * r = den ∧ q % 2 = 1) then q + 1 else q

/-- Numerator and denominator of `num / den * 2 ^ k`. -/
def scale (num den : Nat) (k : Int) : Nat × Nat :=
  if 0 ≤ k then (num * Nat.pow 2 k.toNat, den) else (num, den * Nat.pow 2 (-k).toNat)

/-- The exponent at which the mantissa of `num / den` has 53 bits, but never under `-1074`. -/
def exponentOf (num den : Nat) : Int :=
  let e : Int := num.log2 - den.log2 - 52
  let (n, d) := scale num den (-e)
  max (if n < d * fullMantissa then e - 1 else e) (-1074)

/-- The number nearest to `± num / den`, or nothing if it is too large for the format. -/
def ofRatio? (negative : Bool) (num den : Nat) : Option Binary64 :=
  if num = 0 then some (zero negative)
  else
    let e := exponentOf num den
    let (n, d) := scale num den (-e)
    let m := roundQuotient n d
    let (m, e) := if m = 2 * fullMantissa then (fullMantissa, e + 1) else (m, e)
    if 971 < e then none else some ⟨negative, m, e⟩

/-- The number nearest to `± n`. -/
def ofNat? (negative : Bool) (n : Nat) : Option Binary64 := ofRatio? negative n 1

/-- The magnitude as a quotient. -/
def ratio (x : Binary64) : Nat × Nat := scale x.mantissa 1 x.exponent

/-- The same magnitude with the other sign. -/
def neg (x : Binary64) : Binary64 := { x with negative := !x.negative }

/-- The sum, rounded once. -/
def add? (x y : Binary64) : Option Binary64 :=
  let e := min x.exponent y.exponent
  let part (z : Binary64) : Int :=
    let m : Int := (z.mantissa * Nat.pow 2 (z.exponent - e).toNat : Nat)
    if z.negative then -m else m
  let s := part x + part y
  let (n, d) := scale s.natAbs 1 e
  if s = 0 then some (zero (x.negative && y.negative)) else ofRatio? (s < 0) n d

/-- The difference, rounded once. -/
def sub? (x y : Binary64) : Option Binary64 := add? x y.neg

/-- The product, rounded once. -/
def mul? (x y : Binary64) : Option Binary64 :=
  let (n, d) := scale (x.mantissa * y.mantissa) 1 (x.exponent + y.exponent)
  ofRatio? (x.negative != y.negative) n d

/-- The quotient by a number other than zero, rounded once. -/
def div? (x y : Binary64) : Option Binary64 :=
  let (n, d) := scale x.mantissa y.mantissa (x.exponent - y.exponent)
  if d = 0 then none else ofRatio? (x.negative != y.negative) n d

end Binary64
end StyleVars
