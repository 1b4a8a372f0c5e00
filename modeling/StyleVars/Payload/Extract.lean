import StyleVars.CssString
import StyleVars.Error
import StyleVars.Json.Reader
import StyleVars.Marker

/-
  Variables read back from compiled text: the session's declaration is found, its string decoded
  and read as a JSON object, and the fields that are `null` at top level are dropped.
-/

namespace StyleVars

/-- Variable values by key, in order. -/
abbrev VariableMap := List (Text × Json)

namespace Payload

/-- The payload text of a session in compiled text. -/
def find (token output : Text) : Except ExtractError Text :=
  match Marker.find? (Marker.property token) output with
  | some raw => .ok (CssString.decode raw)
  | none => .error (.extractionFailed (.markerMissing token) none)

/-- The fields without those that are `null`. -/
def purgeNulls (fields : VariableMap) : VariableMap := fields.filter fun f => !f.2.isNull

/-- The variables a payload text holds. -/
def read (payload : Text) : Except ExtractError VariableMap :=
  match Json.read? payload with
  | none => .error (.extractionFailed .notJson none)
  | some (.object fields) => .ok (purgeNulls fields)
  | some v => .error (.extractionFailed (.notObject v) none)

/-- The variables a session finds in compiled text. -/
def extract (token output : Text) : Except ExtractError VariableMap :=
  (find token output).bind read

end Payload
end StyleVars
