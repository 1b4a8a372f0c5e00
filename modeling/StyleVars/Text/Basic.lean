/-
  Texts as lists of characters, and the few operations every other module needs: affixes,
  joining, decimal numerals. Affix tests are exact: `stripPrefix? p t = some r` says `t = p ++ r`,
  and `stripSuffix? s t = some r` says `t = r ++ s`. Affixes, pieces and joined texts are what the
  list library makes of them (`List.isPrefixOf?`, `List.splitOn`, `List.intercalate`).
-/

namespace StyleVars

/-- A text is its list of characters, so that every rule about it is a recursion or a fold. -/
abbrev Text := List Char

namespace Text

/-- What follows `p` in `t`, if `t` starts with `p`. -/
def stripPrefix? (p t : Text) : Option Text := p.isPrefixOf? t

/-- What precedes `s` in `t`, if `t` ends with `s`. -/
def stripSuffix? (s t : Text) : Option Text := s.isSuffixOf? t

/-- The members of `ts` with `sep` between neighbours. -/
abbrev joinWith (sep : Text) (ts : List Text) : Text := sep.intercalate ts

/-- The pieces of `t` between the occurrences of `sep`, at least one. -/
abbrev splitAt (sep : Char) (t : Text) : List Text := t.splitOn sep

/-- Drops the longest run at the end whose members satisfy `p`, as `List.rdropWhile` does. -/
def dropEndWhile {α : Type} (p : α → Bool) (xs : List α) : List α :=
  (xs.reverse.dropWhile p).reverse

/-- The parts before and after the last `sep`, if there is one. -/
def splitLast? (sep : Char) (t : Text) : Option (Text × Text) :=
  match t.reverse.dropWhile (· ≠ sep) with
  | [] => none
  | _ :: before => some (before.reverse, (t.reverse.takeWhile (· ≠ sep)).reverse)

/-- The length of a text in UTF-8. -/
def byteSize (t : Text) : Nat := t.foldl (fun n c => n + c.utf8Size) 0

/-- Decimal digits of a number, without leading zeros. -/
def ofNat (n : Nat) : Text := Nat.toDigits 10 n

/-- Decimal numeral of an integer, with a minus sign below zero. -/
def ofInt : Int → Text
  | .ofNat n => ofNat n
  | .negSucc n => '-' :: ofNat (n + 1)

/-- Lower-case hexadecimal digits of `n`, at least `width` of them. -/
def hex (width n : Nat) : Text :=
  let ds := Nat.toDigits 16 n
  List.replicate (width - ds.length) '0' ++ ds

end Text

/-- The value of a digit in a base up to sixteen, letters in either case. -/
def digitValue? (base : Nat) (c : Char) : Option Nat :=
  let v :=
    if '0' ≤ c ∧ c ≤ '9' then c.toNat - '0'.toNat
    else if 'a' ≤ c ∧ c ≤ 'f' then c.toNat - 'a'.toNat + 10
    else if 'A' ≤ c ∧ c ≤ 'F' then c.toNat - 'A'.toNat + 10
    else base
  if v < base then some v else none

/-- An ASCII hexadecimal digit. -/
def isHexDigit (c : Char) : Bool := (digitValue? 16 c).isSome

/-- The number a run of digits denotes; characters that are no digits count as nothing. -/
def numberOfDigits (base : Nat) (ds : Text) : Nat :=
  ds.foldl (fun n c => n * base + (digitValue? base c).getD 0) 0

/-- The character with this number, if it is a Unicode scalar value. -/
def scalar? (n : Nat) : Option Char :=
  if h : n.isValidChar then some ⟨n.toUInt32, by
    have hn : n < UInt32.size := by rcases h with h | h <;> simp only [UInt32.size] <;> omega
    simpa [UInt32.isValidChar, Nat.toUInt32, UInt32.toNat_ofNat_of_lt' hn] using h⟩
  else none

end StyleVars
