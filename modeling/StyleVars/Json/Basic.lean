import StyleVars.Binary64.Basic
import StyleVars.Text.Basic

/-
  JSON values. The fields of an object are a list in the order of their first appearance; `put`
  keeps the names in it distinct, the last value of a name taking the place of the first.
-/

namespace StyleVars

/-- A JSON value. A number is an integer or a binary floating-point number. -/
inductive Json where
  | null
  | bool (b : Bool)
  | integer (n : Int)
  | float (x : Binary64)
  | string (t : Text)
  | array (items : List Json)
  | object (fields : List (Text × Json))

namespace Json

/-- Sets the value of a name: at its place if it is there, else at the end. -/
def put {α : Type} (name : Text) (value : α) : List (Text × α) → List (Text × α)
  | [] => [(name, value)]
  | (n, v) :: fields => if n = name then (n, value) :: fields else (n, v) :: put name value fields

/-- The fields an object text lists, repeated names merged. -/
def ofMembers {α : Type} (members : List (Text × α)) : List (Text × α) :=
  members.foldl (fun fields m => put m.1 m.2 fields) []

/-- Is this the value `null`? -/
def isNull : Json → Bool
  | .null => true
  | _ => false

end Json
end StyleVars
