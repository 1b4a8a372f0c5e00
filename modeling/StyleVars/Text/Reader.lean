import StyleVars.Text.Basic

/-
  Readers take a value off the front of a text, or fail. A failed alternative gives the text back
  untouched.
-/

namespace StyleVars

/-- A reader: from a text, a value and the text that is left. -/
abbrev Reader (α : Type) := StateT Text Option α

namespace Reader

/-- The next character, left in place. -/
def peek : Reader (Option Char) := do return (← get).head?

/-- Does the text go on with `p`? -/
def sees (p : Text) : Reader Bool := do return p.isPrefixOf (← get)

/-- Takes the next character. -/
def next : Reader Char := do
  match ← get with
  | [] => failure
  | c :: r => set r; return c

/-- Takes exactly the text `p`. -/
def expect (p : Text) : Reader Unit := do
  match Text.stripPrefix? p (← get) with
  | some r => set r
  | none => failure

/-- Takes the text `p` if it comes next, and says whether it did. -/
def accept (p : Text) : Reader Bool := do
  match Text.stripPrefix? p (← get) with
  | some r => set r; return true
  | none => return false

/-- Takes the longest run of characters that satisfy `p`. -/
def takeWhile (p : Char → Bool) : Reader Text := do
  let (run, rest) := (← get).span p
  set rest
  return run

/-- Takes the longest run of characters that satisfy `p`, and fails if there is none. -/
def takeWhile1 (p : Char → Bool) : Reader Text := do
  let run ← takeWhile p
  if run.isEmpty then failure else return run

/-- Fails unless the condition holds. -/
def require (b : Bool) : Reader Unit := if b then pure () else failure

/-- The value of a reader, or nothing if it fails. -/
def attempt {α : Type} (r : Reader α) : Reader (Option α) := (some <$> r) <|> pure none

/-- Applies a function on texts that gives a value and the rest. -/
def of {α : Type} (f : Text → Option (α × Text)) : Reader α := do
  match f (← get) with
  | some (v, r) => set r; return v
  | none => failure

/-- The value of a reader that takes the whole text. -/
def whole? {α : Type} (r : Reader α) (t : Text) : Option α :=
  match r.run t with
  | some (v, []) => some v
  | _ => none

end Reader
end StyleVars
