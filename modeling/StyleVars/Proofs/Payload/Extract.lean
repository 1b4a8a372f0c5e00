import StyleVars.Proofs.Json.Object
import StyleVars.Proofs.Payload.Find

/-
  What an extraction gives, said of the compiled text. The text carries a string for the session if
  a complete declaration of its property stands somewhere in it, and then the first one counts; the
  variables are the fields of the object that this string spells (`extract_eq_ok`). There is one
  other way to end, and it is taken exactly if there is no declaration or its string spells no
  object (`extract_eq_error`).
-/

namespace StyleVars.Payload

open Json (Merged objectMembers? objectMembers?_eq_none read?_eq_object)
open Marker (DeclaredAt FirstDeclared property)

/-- The string declared for the session in the text spells an object, and these are its fields but
for those that are `null`. A name that comes back keeps its first place and its last value. -/
def Carries (token output : Text) (values : VariableMap) : Prop :=
  ∃ raw members fields, FirstDeclared (property token) output raw ∧
    objectMembers? (CssString.decode raw) = some members ∧ Merged members fields ∧
    values = fields.filter fun f => !f.2.isNull

/-- No declaration for the session is complete, or the first string declared spells no object. -/
def CarriesNothing (token output : Text) : Prop :=
  (∀ i raw, ¬ DeclaredAt (property token) output i raw) ∨
    ∃ raw, FirstDeclared (property token) output raw ∧
      objectMembers? (CssString.decode raw) = none

variable {token output payload raw : Text} {values : VariableMap}

theorem read_of_merged {members : List (Text × Json)} {fields : VariableMap}
    (h : objectMembers? payload = some members) (hm : Merged members fields) :
    read payload = .ok (fields.filter fun f => !f.2.isNull) := by
  unfold read
  rw [read?_eq_object.mpr ⟨members, h, hm⟩]
  rfl

theorem read_of_not_object (h : objectMembers? payload = none) :
    ∃ cause, read payload = .error (.extractionFailed cause none) := by
  unfold read
  split
  · exact ⟨.notJson, rfl⟩
  · next fields hfields => exact absurd hfields (objectMembers?_eq_none.mp h fields)
  · next v _ _ => exact ⟨.notObject v, rfl⟩

/-- The text carries variables or nothing; nothing else can be the case. -/
theorem carries_or_nothing (token output : Text) :
    (∃ values, Carries token output values) ∨ CarriesNothing token output := by
  cases hfind : Marker.find? (property token) output with
  | none => exact .inr (.inl (Marker.find?_eq_none.mp hfind))
  | some raw =>
    have hfirst := Marker.find?_eq_some.mp hfind
    cases hmembers : objectMembers? (CssString.decode raw) with
    | none => exact .inr (.inr ⟨raw, hfirst, hmembers⟩)
    | some members =>
      exact .inl ⟨_, raw, members, _, hfirst, hmembers, Json.merged_ofMembers members, rfl⟩

theorem Carries.extract_eq (h : Carries token output values) :
    extract token output = .ok values := by
  obtain ⟨raw, members, fields, hfirst, hmembers, hmerged, rfl⟩ := h
  unfold extract
  rw [find_of_firstDeclared hfirst]
  exact read_of_merged hmembers hmerged

theorem CarriesNothing.extract_eq (h : CarriesNothing token output) :
    ∃ cause, extract token output = .error (.extractionFailed cause none) := by
  unfold extract
  rcases h with hnone | ⟨raw, hfirst, hmembers⟩
  · rw [find_of_not_declared hnone]
    exact ⟨.markerMissing token, rfl⟩
  · rw [find_of_firstDeclared hfirst]
    exact read_of_not_object hmembers

/-- Exactly the variables a text carries are extracted from it. -/
theorem extract_eq_ok : extract token output = .ok values ↔ Carries token output values := by
  refine ⟨fun h => ?_, Carries.extract_eq⟩
  rcases carries_or_nothing token output with ⟨others, hothers⟩ | hnothing
  · rw [hothers.extract_eq] at h
    rwa [← Except.ok.inj h]
  · obtain ⟨cause, hcause⟩ := hnothing.extract_eq
    rw [hcause] at h
    cases h

/-- An extraction fails exactly if the text carries nothing. -/
theorem extract_eq_error :
    (∃ e, extract token output = .error e) ↔ CarriesNothing token output := by
  refine ⟨fun ⟨e, h⟩ => ?_, fun h => ?_⟩
  · rcases carries_or_nothing token output with ⟨others, hothers⟩ | hnothing
    · rw [hothers.extract_eq] at h
      cases h
    · exact hnothing
  · obtain ⟨cause, hcause⟩ := h.extract_eq
    exact ⟨_, hcause⟩

end StyleVars.Payload
