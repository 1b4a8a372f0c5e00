import StyleVars.Text.Basic

/-
  Strings as CSS writes them between quotes. `decode` reads the escapes of the text between the
  quotes: a backslash with up to six hexadecimal digits names a character by number and takes one
  blank after it along, a backslash before a line feed is nothing, and a backslash before any other
  character is that character.
-/

namespace StyleVars.CssString

/-- Up to `n` leading hexadecimal digits, and what follows them. -/
def takeHex : Nat → Text → Text × Text
  | 0, t => ([], t)
  | _ + 1, [] => ([], [])
  | n + 1, c :: r => if isHexDigit c then (c :: (takeHex n r).1, (takeHex n r).2) else ([], c :: r)

/-- Taking digits off a text does not make it longer. -/
theorem takeHex_rest_length (n : Nat) (t : Text) : (takeHex n t).2.length ≤ t.length := by
  fun_induction takeHex n t with
  | case1 t => exact Nat.le_refl _
  | case2 => exact Nat.le_refl _
  | case3 n c r h ih => exact Nat.le_succ_of_le ih
  | case4 n c r h => exact Nat.le_refl _

/-- Drops the blank that may end an escape by number. -/
def dropBlank : Text → Text
  | ' ' :: r => r
  | '\t' :: r => r
  | '\n' :: r => r
  | t => t

/-- Dropping the blank does not make a text longer. -/
theorem dropBlank_length (t : Text) : (dropBlank t).length ≤ t.length := by
  fun_cases dropBlank t <;> simp

/-- The character an escape by number stands for; zero and numbers that are no character stand
for the replacement character. -/
def numbered (digits : Text) : Char :=
  let n := numberOfDigits 16 digits
  if n = 0 then '\uFFFD' else (scalar? n).getD '\uFFFD'

/-- The text that the characters between the quotes of a string denote. -/
def decode : Text → Text
  | [] => []
  | c :: r =>
    if c = '\\' then
      match takeHex 6 r, takeHex_rest_length 6 r with
      | (d :: ds, rest), _ =>
        have := dropBlank_length rest
        numbered (d :: ds) :: decode (dropBlank rest)
      | ([], []), _ => ['\\']
      | ([], e :: rest), _ => if e = '\n' then decode rest else e :: decode rest
    else c :: decode r
termination_by t => t.length
decreasing_by all_goals (simp_all <;> omega)

end StyleVars.CssString
