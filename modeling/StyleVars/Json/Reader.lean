import StyleVars.Json.Number

/-
  Reading JSON texts. Each reader takes a text and gives a value with the rest of the text, or
  nothing if the text is malformed. Values nest at most `nestingLimit` deep. The bound on steps
  is computed from the length of the text, as every step but the entry into a list or object
  consumes a character.

  `skip` only checks the grammar: it knows no nesting limit and no range of numbers, and takes
  any four hexadecimal digits after `\u`.
-/

namespace StyleVars.Json

/-- A blank of the JSON grammar. -/
def isBlank (c : Char) : Bool := c = ' ' || c = '\t' || c = '\n' || c = '\r'

/-- Drops leading blanks. -/
def dropBlanks (t : Text) : Text := t.dropWhile isBlank

/-- The character a one-letter escape stands for. -/
def shortEscape? : Char → Option Char
  | '"' => some '"'
  | '\\' => some '\\'
  | '/' => some '/'
  | 'b' => some '\x08'
  | 'f' => some '\x0c'
  | 'n' => some '\n'
  | 'r' => some '\r'
  | 't' => some '\t'
  | _ => none

/-- The number of a `\u` escape, if its four characters are hexadecimal digits. -/
def unit? (a b c d : Char) : Option Nat :=
  if [a, b, c, d].all isHexDigit then some (numberOfDigits 16 [a, b, c, d]) else none

/-- The rest of a string literal after its opening quote: the text it denotes, and what follows
the closing quote. `lead` is a leading surrogate that waits for its other half. -/
def stringRest (lead : Option Nat) : Text → Option (Text × Text)
  | [] => none
  | '\\' :: 'u' :: a :: b :: c :: d :: r =>
    match unit? a b c d, lead with
    | none, _ => none
    | some n, some hi =>
      if 0xDC00 ≤ n ∧ n ≤ 0xDFFF then
        (stringRest none r).map fun (t, r) =>
          (Char.ofNat (0x10000 + (hi - 0xD800) * 0x400 + (n - 0xDC00)) :: t, r)
      else none
    | some n, none =>
      if 0xD800 ≤ n ∧ n ≤ 0xDBFF then stringRest (some n) r
      else if 0xDC00 ≤ n ∧ n ≤ 0xDFFF then none
      else (stringRest none r).map fun (t, r) => (Char.ofNat n :: t, r)
  | '\\' :: c :: r =>
    match shortEscape? c, lead with
    | some e, none => (stringRest none r).map fun (t, r) => (e :: t, r)
    | _, _ => none
  | c :: r =>
    if lead.isSome ∨ c = '\\' ∨ c.toNat < 0x20 then none
    else if c = '"' then some ([], r)
    else (stringRest none r).map fun (t, r) => (c :: t, r)

/-- The fixed word `w`, standing for `v`. -/
def word (w : Text) (v : Json) (t : Text) : Option (Json × Text) :=
  (Text.stripPrefix? w t).map (v, ·)

mutual

/-- A value: the first argument bounds the steps, the second counts the levels that may still be
opened. -/
def value : Nat → Nat → Text → Option (Json × Text)
  | 0, _, _ => none
  | n + 1, levels, t =>
    match dropBlanks t with
    | 'n' :: r => word "ull".toList .null r
    | 't' :: r => word "rue".toList (.bool true) r
    | 'f' :: r => word "alse".toList (.bool false) r
    | '"' :: r => (stringRest none r).map fun (s, r) => (.string s, r)
    | '[' :: r =>
      if levels = 0 then none
      else match dropBlanks r with
        | ']' :: r => some (.array [], r)
        | r => (items n (levels - 1) r).map fun (vs, r) => (.array vs, r)
    | '\x7b' :: r =>
      if levels = 0 then none
      else match dropBlanks r with
        | '\x7d' :: r => some (.object [], r)
        | r => (members n (levels - 1) r).map fun (ms, r) => (.object (ofMembers ms), r)
    | r => number r

/-- One or more values with commas between them, up to the closing bracket. -/
def items : Nat → Nat → Text → Option (List Json × Text)
  | 0, _, _ => none
  | n + 1, levels, t =>
    match value n levels t with
    | none => none
    | some (v, r) =>
      match dropBlanks r with
      | ',' :: r => (items n levels r).map fun (vs, r) => (v :: vs, r)
      | ']' :: r => some ([v], r)
      | _ => none

/-- One or more fields with commas between them, up to the closing brace. -/
def members : Nat → Nat → Text → Option (List (Text × Json) × Text)
  | 0, _, _ => none
  | n + 1, levels, t =>
    match dropBlanks t with
    | '"' :: r =>
      match stringRest none r with
      | none => none
      | some (k, r) =>
        match dropBlanks r with
        | ':' :: r =>
          match value n levels r with
          | none => none
          | some (v, r) =>
            match dropBlanks r with
            | ',' :: r => (members n levels r).map fun (ms, r) => ((k, v) :: ms, r)
            | '\x7d' :: r => some ([(k, v)], r)
            | _ => none
        | _ => none
    | _ => none

end

/-- How many lists and objects may be open at once. -/
def nestingLimit : Nat := 127

/-- Enough steps for any text of this length. -/
def stepsFor (t : Text) : Nat := 2 * t.length + 2

/-- The value of a text that holds one JSON value and nothing else but blanks. -/
def read? (t : Text) : Option Json :=
  match value (stepsFor t) nestingLimit t with
  | some (v, r) => if (dropBlanks r).isEmpty then some v else none
  | none => none

/-- What follows a string literal whose opening quote is gone, whatever it denotes. -/
def skipString : Text → Option Text
  | [] => none
  | '\\' :: 'u' :: a :: b :: c :: d :: r => (unit? a b c d).bind fun _ => skipString r
  | '\\' :: c :: r => (shortEscape? c).bind fun _ => skipString r
  | c :: r =>
    if c = '\\' ∨ c.toNat < 0x20 then none else if c = '"' then some r else skipString r

/-- What follows a number literal, whatever its size. -/
def skipNumber (t : Text) : Option Text :=
  (numberParts (match t with
    | '-' :: r => r
    | _ => t)).map (·.2)

mutual

/-- What follows a value. -/
def skip : Nat → Text → Option Text
  | 0, _ => none
  | n + 1, t =>
    match dropBlanks t with
    | 'n' :: r => Text.stripPrefix? "ull".toList r
    | 't' :: r => Text.stripPrefix? "rue".toList r
    | 'f' :: r => Text.stripPrefix? "alse".toList r
    | '"' :: r => skipString r
    | '[' :: r =>
      match dropBlanks r with
      | ']' :: r => some r
      | r => skipItems n r
    | '\x7b' :: r =>
      match dropBlanks r with
      | '\x7d' :: r => some r
      | r => skipMembers n r
    | r => skipNumber r

/-- What follows the closing bracket of a list with at least one member. -/
def skipItems : Nat → Text → Option Text
  | 0, _ => none
  | n + 1, t =>
    match skip n t with
    | none => none
    | some r =>
      match dropBlanks r with
      | ',' :: r => skipItems n r
      | ']' :: r => some r
      | _ => none

/-- What follows the closing brace of an object with at least one field. -/
def skipMembers : Nat → Text → Option Text
  | 0, _ => none
  | n + 1, t =>
    match dropBlanks t with
    | '"' :: r =>
      match (skipString r).map dropBlanks with
      | some (':' :: r) =>
        match skip n r with
        | none => none
        | some r =>
          match dropBlanks r with
          | ',' :: r => skipMembers n r
          | '\x7d' :: r => some r
          | _ => none
      | _ => none
    | _ => none

end

end StyleVars.Json
