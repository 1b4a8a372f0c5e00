import StyleVars.Sass.JsonEncode
import StyleVars.Sass.Lexical
import StyleVars.Sass.Syntax

/-
  Variables in scope, and the values of expressions. Assignments at the top level are global;
  inside a block an assignment changes the nearest enclosing local variable of that name, or makes
  a new one in the block, and never touches a global unless it says so.
-/

namespace StyleVars.Sass

/-- Variables of one block, or the global ones. -/
abbrev Bindings := List (Text × Value)

/-- Everything in scope: global variables, the blocks around the current place from the inside
out, and the functions defined so far. -/
structure Scope where
  globals : Bindings := []
  blocks : List Bindings := []
  functions : List Text := []

namespace Bindings

/-- Binds a name. -/
def set (name : Text) (v : Value) : Bindings → Bindings
  | [] => [(name, v)]
  | (n, w) :: bs => if n = name then (n, v) :: bs else (n, w) :: set name v bs

end Bindings

namespace Scope

/-- The value of a variable, the innermost one of that name. -/
def get? (s : Scope) (name : Text) : Option Value :=
  (s.blocks ++ [s.globals]).findSome? (·.lookup name)

/-- Is there a global variable of that name? -/
def hasGlobal (s : Scope) (name : Text) : Bool := (s.globals.lookup name).isSome

/-- Sets a global variable. -/
def setGlobal (s : Scope) (name : Text) (v : Value) : Scope :=
  { s with globals := Bindings.set name v s.globals }

/-- Sets a local variable in the innermost of these blocks that has it, if one does. -/
def setIn? (name : Text) (v : Value) : List Bindings → Option (List Bindings)
  | [] => none
  | b :: bs =>
    if (b.lookup name).isSome then some (Bindings.set name v b :: bs)
    else (setIn? name v bs).map (b :: ·)

/-- Sets a variable from where the scope stands. -/
def set (s : Scope) (name : Text) (v : Value) : Scope :=
  match s.blocks with
  | [] => s.setGlobal name v
  | b :: bs => { s with blocks := (setIn? name v s.blocks).getD (Bindings.set name v b :: bs) }

end Scope

/-! ## Expressions -/

/-- The unit of a sum or difference: two units must be equal. -/
def commonUnit (u v : Text) : Except Failure Text :=
  if u.isEmpty then .ok v else if v.isEmpty ∨ u = v then .ok u else .error .incompatibleUnits

/-- The unit of a product. -/
def productUnit (u v : Text) : Text :=
  if u.isEmpty then v else if v.isEmpty then u else u ++ Value.unitMark :: v

/-- A number, unless it is out of range. -/
def inRange (x : Option Binary64) (unit : Text) : Except Failure Value :=
  match x with
  | some x => .ok (.number x unit)
  | none => .error .outOfRange

/-- Is the value a quoted string? -/
def isQuoted : Value → Bool
  | .string _ quoted => quoted
  | _ => false

/-- The value of an operation. On anything but numbers, a sum joins texts and a difference writes
a hyphen between them. -/
def operate (o : Operator) (v w : Value) : Except Failure Value :=
  match o, v, w with
  | .plus, .number x u, .number y t => do inRange (x.add? y) (← commonUnit u t)
  | .minus, .number x u, .number y t => do inRange (x.sub? y) (← commonUnit u t)
  | .times, .number x u, .number y t => inRange (x.mul? y) (productUnit u t)
  | .plus, v, w => do
    let quoted := isQuoted v || (isQuoted w && match v with
      | .string .. => false
      | _ => true)
    return .string ((← v.interpolated) ++ (← w.interpolated)) quoted
  | .minus, v, w => do return .string ((← v.css) ++ '-' :: (← w.css)) false
  | .times, _, _ => .error .undefinedOperation

/-- Joins the texts of the parts of a string. -/
def joinParts (vs : List Value) : Except Failure Text := do
  return (← vs.mapM Value.interpolated).flatten

/-- Is the value neither `false` nor `null`? -/
def isTruthy : Value → Bool
  | .null => false
  | .bool b => b
  | _ => true

/-- The entries of a map, none of whose keys may be equal. -/
def distinctEntries : List (Value × Value) → List (Value × Value) → Except Failure Value
  | seen, [] => .ok (.map seen.reverse)
  | seen, e :: es =>
    if seen.any fun s => s.1.same e.1 then .error .duplicateKey
    else distinctEntries (e :: seen) es

/-- The name of the function the helper stylesheet defines. -/
def encodeFunction : Text := "json-encode".toList

/-- The value of a function on values. A function that nobody has defined is left to CSS. -/
def apply (s : Scope) (name : Text) (vs : List Value) : Except Failure Value :=
  let lookup := lookupName name
  if lookup = "global-variable-exists".toList then
    match vs with
    | [.string t _] => .ok (.bool (s.hasGlobal (lookupName t)))
    | _ => .error .wrongArguments
  else if lookup = encodeFunction ∧ s.functions.contains encodeFunction then
    match vs with
    | [v] => .ok (.string (JsonEncode.encode v) true)
    | _ => .error .wrongArguments
  else do
    let ts ← vs.mapM Value.css
    return .string (name ++ '(' :: Text.joinWith ", ".toList ts ++ [')']) false

mutual

/-- The value of an expression. Of the two results of an `if` only the chosen one is computed. -/
def evaluate (s : Scope) : Expr → Except Failure Value
  | .literal v => .ok v
  | .variable name =>
    match s.get? name with
    | some v => .ok v
    | none => .error (.undefinedVariable name)
  | .quoted parts => do return .string (← joinParts (← evaluateAll s parts)) true
  | .list items separator bracketed => do
    return .list (← evaluateAll s items) separator bracketed
  | .map entries => do
    if entries.isEmpty then return .list [] .space false
    distinctEntries [] (← evaluateEntries s entries)
  | .binary o l r => do operate o (← evaluate s l) (← evaluate s r)
  | .negate e => do
    match ← evaluate s e with
    | .number x unit => return .number x.neg unit
    | v => return .string ('-' :: (← v.css)) false
  | .call name arguments =>
    if name = "if".toList then chooseArgument s arguments
    else do apply s name (← evaluateAll s arguments)

/-- The values of several expressions. -/
def evaluateAll (s : Scope) : List Expr → Except Failure (List Value)
  | [] => .ok []
  | e :: es => do return (← evaluate s e) :: (← evaluateAll s es)

/-- The keys and values of a map. -/
def evaluateEntries (s : Scope) : List (Expr × Expr) → Except Failure (List (Value × Value))
  | [] => .ok []
  | (k, v) :: es => do return (← evaluate s k, ← evaluate s v) :: (← evaluateEntries s es)

/-- The value of an `if`: condition, result if it holds, result if not. -/
def chooseArgument (s : Scope) : List Expr → Except Failure Value
  | [condition, yes, no] => do
    if isTruthy (← evaluate s condition) then evaluate s yes else evaluate s no
  | _ => .error .wrongArguments

end

end StyleVars.Sass
