import Mathlib.Data.List.Forall2
import StyleVars.Proofs.Json.Control
import StyleVars.Proofs.Text.UpperCase
import StyleVars.Render
import StyleVars.Variable.Token

/-
  The lines for shells, read back. A name for shells holds neither a line feed nor an equals sign,
  and compact JSON holds no line feed; but a string stands for itself, line feeds and all. So the
  lines of a rendering are one for each variable, each with its name and its value, exactly if no
  variable is a string with a line feed in it (`readsByLine_env_iff`). The part of such a string
  behind the line feed is read as a variable of its own (`env_line_injected`).
-/

namespace StyleVars.Render

/-! ## Reading lines -/

/-- Cut at its first equals sign, the line gives the variable's name for shells and the text of its
value. -/
structure IsLineOf (line : Text) (field : Text × Json) : Prop where
  name : line.takeWhile (· ≠ '=') = envName field.1
  value : line.dropWhile (· ≠ '=') = '=' :: envValue field.2

/-- The text has one line for each variable, in their order. -/
def ReadsByLine (t : Text) (fields : VariableMap) : Prop :=
  List.Forall₂ IsLineOf (Text.splitAt '\n' t) fields

/-- A value that stays on one line. -/
def IsOneLine : Json → Prop
  | .string t => '\n' ∉ t
  | _ => True

instance : DecidablePred IsOneLine
  | .string t => inferInstanceAs (Decidable ('\n' ∉ t))
  | .null | .bool _ | .integer _ | .float _ | .array _ | .object _ => isTrue trivial

/-- A key of word characters and hyphens. -/
def IsPlainKey (key : Text) : Prop := ∀ c ∈ key, Variable.isPlainUnit c = true

instance (key : Text) : Decidable (IsPlainKey key) := List.decidableBAll _ key

/-! ## Names and values -/

variable {key : Text} {c : Char}

/-- A name for shells holds no sign and no control character that the key does not hold. -/
theorem notMem_envName (hc : c.toNat < 'A'.toNat) (h : c ∉ key) : c ∉ envName key := by
  intro hmem
  obtain ⟨d, hd, hdc⟩ := List.mem_map.mp hmem
  split at hdc
  · subst hdc
    exact absurd hc (by decide)
  · subst hdc
    rcases Text.mem_upperCase hd with hkey | hletter
    · exact h hkey
    · omega

theorem IsPlainKey.notMem (h : IsPlainKey key) (hc : Variable.isPlainUnit c = false) : c ∉ key := by
  intro hmem
  have hplain := h c hmem
  rw [hc] at hplain
  cases hplain

theorem equals_notMem_envName (h : IsPlainKey key) : '=' ∉ envName key :=
  notMem_envName (by decide) (h.notMem (by decide))

theorem lineFeed_notMem_envName (h : IsPlainKey key) : '\n' ∉ envName key :=
  notMem_envName (by decide) (h.notMem (by decide))

/-- Only a string can open a line. -/
theorem lineFeed_notMem_envValue {v : Json} : '\n' ∉ envValue v ↔ IsOneLine v := by
  have hrender : '\n' ∉ v.render := fun h => absurd (Json.noControl_render v '\n' h) (by decide)
  cases v with
  | string t => exact Iff.rfl
  | null => exact iff_of_true hrender trivial
  | bool b => exact iff_of_true hrender trivial
  | integer n => exact iff_of_true hrender trivial
  | float x => exact iff_of_true hrender trivial
  | array items => exact iff_of_true hrender trivial
  | object fields => exact iff_of_true hrender trivial

/-! ## Lines -/

variable {field : Text × Json} {fields : VariableMap}

theorem IsLineOf.eq_envLine {line : Text} (h : IsLineOf line field) : line = envLine field := by
  rw [← List.takeWhile_append_dropWhile (p := (· ≠ '=')) (l := line), h.name, h.value]
  rfl

theorem isLineOf_envLine (h : IsPlainKey field.1) : IsLineOf (envLine field) field := by
  have hname : ∀ c ∈ envName field.1, decide (c ≠ '=') = true := by
    intro c hc
    refine decide_eq_true ?_
    rintro rfl
    exact equals_notMem_envName h hc
  unfold envLine
  constructor
  · rw [List.takeWhile_append_of_pos hname]
    simp
  · rw [List.dropWhile_append_of_pos hname]
    simp

theorem lineFeed_notMem_envLine (h : IsPlainKey field.1) :
    '\n' ∉ envLine field ↔ IsOneLine field.2 := by
  have hname := lineFeed_notMem_envName h
  unfold envLine
  rw [← lineFeed_notMem_envValue]
  simp [hname]

/-- Nothing but the lines of the variables is read so. -/
theorem ReadsByLine.splitAt_eq {t : Text} (h : ReadsByLine t fields) :
    Text.splitAt '\n' t = fields.map envLine := by
  have hlines : List.Forall₂ (fun line field => line = envLine field) (Text.splitAt '\n' t)
      fields := List.Forall₂.imp (fun _ _ => IsLineOf.eq_envLine) h
  rwa [← List.forall₂_map_right_iff (R := Eq), List.forall₂_eq_eq_eq] at hlines

/-- The rendering for shells of a map with plain keys has one line for each variable, in order, and
each line is cut at its first equals sign into the name for shells and the text of the value,
exactly if no variable is a string that holds a line feed. -/
theorem readsByLine_env_iff (hne : fields ≠ []) (hkeys : ∀ f ∈ fields, IsPlainKey f.1) :
    ReadsByLine (env fields) fields ↔ ∀ f ∈ fields, IsOneLine f.2 := by
  constructor
  · -- A piece between line feeds holds none, and the lines are pieces.
    intro h f hf
    have hpiece : '\n' ∉ envLine f := by
      refine Text.notMem_of_mem_splitAt (t := env fields) ?_
      rw [h.splitAt_eq]
      exact List.mem_map_of_mem hf
    exact (lineFeed_notMem_envLine (hkeys f hf)).mp hpiece
  · intro h
    have hlines : Text.splitAt '\n' (env fields) = fields.map envLine := by
      refine List.splitOn_intercalate '\n' (fun line hline => ?_) (by simpa using hne)
      obtain ⟨f, hf, rfl⟩ := List.mem_map.mp hline
      exact (lineFeed_notMem_envLine (hkeys f hf)).mpr (h f hf)
    unfold ReadsByLine
    rw [hlines, List.forall₂_map_left_iff, List.forall₂_same]
    exact fun f hf => isLineOf_envLine (hkeys f hf)

/-- Line feeds inside an array, and in a key inside it, are escaped; a sign in a string stands for
itself, and the first equals sign of its line is the one in front of it. -/
theorem readsByLine_env_nested :
    let fields : VariableMap := [("brand-color".toList, .string "a=b".toList),
      ("straße".toList, .array [.string "1\nb=2".toList, .object [("x\ny".toList, .null)]])]
    fields ≠ [] ∧ (∀ f ∈ fields, IsPlainKey f.1) ∧ ReadsByLine (env fields) fields := by
  intro fields
  have hne : fields ≠ [] := List.cons_ne_nil _ _
  have hkeys : ∀ f ∈ fields, IsPlainKey f.1 := by decide
  exact ⟨hne, hkeys, (readsByLine_env_iff hne hkeys).mpr (by decide)⟩

/-- A string with a line feed in it is rendered as two variables are. -/
theorem env_line_injected :
    let fields : VariableMap := [("a".toList, .string "1\nPATH=x".toList)]
    fields ≠ [] ∧ (∀ f ∈ fields, IsPlainKey f.1) ∧ ¬ ReadsByLine (env fields) fields ∧
      env fields =
        env [("a".toList, .string "1".toList), ("path".toList, .string "x".toList)] := by
  intro fields
  refine ⟨List.cons_ne_nil _ _, by decide, fun h => ?_, by decide⟩
  exact absurd (congrArg List.length h.splitAt_eq) (by decide)

end StyleVars.Render
