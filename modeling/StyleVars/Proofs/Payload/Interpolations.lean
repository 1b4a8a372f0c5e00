import StyleVars.Proofs.Payload.Template
import StyleVars.Proofs.Variable.Names

/-
  Nothing in a name breaks out of the synthetic rule. Whatever texts the names were scraped from,
  the string of the rule's declaration is read up to its own closing quote, with the end of the
  rule behind it, and its interpolations are the expressions of the names, one for each and in
  order (`rule_string_closed`).
-/

namespace StyleVars.Payload

open Sass (StringPart)
open Variable (IsToken Names sigil)

/-- The source of an interpolation; text has none. -/
def source? : StringPart → Option Text
  | .text _ => none
  | .interpolation source => some source

/-- The sources of the interpolations of a string, in order. -/
def interpolations (parts : List StringPart) : List Text := parts.filterMap source?

theorem interpolations_append (parts rest : List StringPart) :
    interpolations (parts ++ rest) = interpolations parts ++ interpolations rest :=
  List.filterMap_append

/-- A field has one interpolation, whatever is in front of its key. -/
theorem interpolations_fieldParts (lead : Char) (name : Text) :
    interpolations (fieldParts lead name) = [fieldExpression name.tail name] := rfl

theorem interpolations_flatMap_fieldParts (lead : Char) (names : List Text) :
    interpolations (names.flatMap (fieldParts lead)) =
      names.map fun name => fieldExpression name.tail name := by
  induction names with
  | nil => rfl
  | cons name names ih =>
    rw [List.flatMap_cons, interpolations_append, interpolations_fieldParts, ih]
    rfl

/-- The parts of the object text have one interpolation for each name. -/
theorem interpolations_objectParts (names : List Text) :
    interpolations (objectParts names) =
      names.map fun name => fieldExpression name.tail name := by
  cases names with
  | nil => rfl
  | cons name names =>
    have hclose : interpolations [.text ['\x7d']] = [] := rfl
    rw [objectParts, interpolations_append, interpolations_append, interpolations_fieldParts,
      interpolations_flatMap_fieldParts, hclose, List.append_nil]
    rfl

/-- Tokens are the sigil and their bodies. -/
theorem exists_bodies {names : List Text} (h : ∀ name ∈ names, IsToken name) :
    ∃ bodies : List Text, names = bodies.map (sigil :: ·) := by
  refine ⟨names.map List.tail, ?_⟩
  have hself : names.map (fun name => sigil :: name.tail) = names.map id := by
    refine List.map_congr_left fun name hname => ?_
    obtain ⟨us, -, -, rfl⟩ := h name hname
    rfl
  rw [List.map_map]
  exact (hself.trans (List.map_id names)).symm

/-- The string of the rule's declaration ends at the quote in front of the rule's end, and it has
one interpolation for each name, in order: the expression with the name as it was scraped, and
without its sigil in the quotes. -/
theorem rule_string_closed (token : Text) (sources : List Text) :
    ∃ (bodies : List Text) (value : Text) (parts : List StringPart),
      (Names.ofSources sources).toList = bodies.map (sigil :: ·) ∧
      rule? token (Names.ofSources sources).toList =
        some ("\n.".toList ++ token ++ '\x7b' :: Marker.property token ++ ":'".toList ++ value
          ++ "';\x7d\n".toList) ∧
      Sass.stringRest '\'' [] (value ++ "';\x7d\n".toList) = some (parts, ";\x7d\n".toList) ∧
      interpolations parts = bodies.map fun body =>
        "if(global-variable-exists('".toList ++ body ++ "'), json-encode(".toList
          ++ (sigil :: body) ++ "), 'null')".toList := by
  have htokens : ∀ name ∈ (Names.ofSources sources).toList, IsToken name :=
    fun _ => Names.isToken_of_mem_ofSources
  generalize (Names.ofSources sources).toList = names at htokens ⊢
  obtain ⟨bodies, rfl⟩ := exists_bodies htokens
  refine ⟨bodies, objectOf (bodies.map (sigil :: ·)), objectParts (bodies.map (sigil :: ·)), rfl,
    rule?_eq htokens token, stringRest_objectOf htokens _, ?_⟩
  rw [interpolations_objectParts, List.map_map]
  rfl

end StyleVars.Payload
