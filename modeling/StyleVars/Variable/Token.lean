import StyleVars.Text.WordChar
import StyleVars.Text.Basic

/-
  Variable tokens in stylesheet text: the sigil followed by one or more units, a unit being a word
  character, a hyphen, or a backslash with one punctuation character. `tokens` takes the longest
  token at the leftmost sigil that starts one, again and again, blind to comments, strings and
  scope.
-/

namespace StyleVars.Variable

/-- The character a variable token starts with. -/
def sigil : Char := '$'

/-- The punctuation a backslash makes part of a name. -/
def escapable : Text := " !\"#$%&'()*+,./:;<=>?@^\x7b|\x7d~[]".toList

/-- A character that is a unit on its own. -/
def isPlainUnit (c : Char) : Bool := Text.isWord c || c = '-'

/-- The longest run of units at the start of a text, and what follows it. -/
def unitRun : Text → Text × Text
  | [] => ([], [])
  | '\\' :: c :: r =>
    if escapable.contains c then ('\\' :: c :: (unitRun r).1, (unitRun r).2)
    else ([], '\\' :: c :: r)
  | c :: r => if isPlainUnit c then (c :: (unitRun r).1, (unitRun r).2) else ([], c :: r)

/-- A run of units and what follows it make up the text. -/
theorem unitRun_append (t : Text) : (unitRun t).1 ++ (unitRun t).2 = t := by
  fun_induction unitRun t <;> simp_all

/-- What follows a run of units is no longer than the text. -/
theorem unitRun_rest_length (t : Text) : (unitRun t).2.length ≤ t.length := by
  have h := congrArg List.length (unitRun_append t)
  rw [List.length_append] at h
  omega

/-- The variable tokens of a text, in order and with repetitions. -/
def tokens : Text → List Text
  | [] => []
  | c :: r =>
    if c = sigil then
      match unitRun r, unitRun_rest_length r with
      | ([], _), _ => tokens r
      | (u :: us, rest), _ => (sigil :: u :: us) :: tokens rest
    else tokens r
termination_by t => t.length
decreasing_by
  · exact Nat.lt_succ_self _
  · exact Nat.lt_succ_of_le (by assumption)
  · exact Nat.lt_succ_self _

/-- A name as the compiler reports it: without the sigil, every escape replaced by its character. -/
def unescape : Text → Text
  | [] => []
  | ['\\'] => []
  | '\\' :: c :: r => c :: unescape r
  | c :: r => c :: unescape r

/-- The key under which a variable is reported. -/
def key (name : Text) : Text := unescape ((Text.stripPrefix? [sigil] name).getD name)

end StyleVars.Variable
