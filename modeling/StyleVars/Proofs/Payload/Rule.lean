import StyleVars.Payload.Rule
import StyleVars.Proofs.Variable.Token

/-
  The synthetic rule of names that are tokens. Such names start with the sigil, a single byte, so
  the rule exists (`rule?_eq`) and is this text: one field for each name, in order.
-/

namespace StyleVars.Payload

open Variable (IsToken)

/-- The field of a name, without the check that its first character is a single byte. -/
def fieldOf (name : Text) : Text :=
  quoteKey (Variable.key name) ++ ": #\x7b".toList ++ fieldExpression name.tail name ++ ['\x7d']

/-- The object text with one field for each name. -/
def objectOf (names : List Text) : Text :=
  '\x7b' :: Text.joinWith [','] (names.map fieldOf) ++ ['\x7d']

/-- The rule with one field for each name. -/
def ruleOf (token : Text) (names : List Text) : Text :=
  "\n.".toList ++ token ++ '\x7b' :: Marker.property token ++ ":'".toList ++ objectOf names
    ++ "';\x7d\n".toList

theorem nameBody?_eq {name : Text} (h : IsToken name) : nameBody? name = some name.tail := by
  obtain ⟨us, -, -, rfl⟩ := h
  rfl

theorem field?_eq {name : Text} (h : IsToken name) : field? name = some (fieldOf name) := by
  unfold field?
  rw [nameBody?_eq h]
  rfl

theorem mapM_field?_eq {names : List Text} (h : ∀ name ∈ names, IsToken name) :
    names.mapM field? = some (names.map fieldOf) := by
  induction names with
  | nil => rfl
  | cons name names ih =>
    rw [List.mapM_cons, field?_eq (h name List.mem_cons_self),
      ih fun n hn => h n (List.mem_cons_of_mem name hn)]
    rfl

theorem object?_eq {names : List Text} (h : ∀ name ∈ names, IsToken name) :
    object? names = some (objectOf names) := by
  unfold object?
  rw [mapM_field?_eq h]
  rfl

theorem rule?_eq {names : List Text} (h : ∀ name ∈ names, IsToken name) (token : Text) :
    rule? token names = some (ruleOf token names) := by
  unfold rule?
  rw [object?_eq h]
  rfl

end StyleVars.Payload
