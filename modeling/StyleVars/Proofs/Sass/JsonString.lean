import StyleVars.Proofs.Json.Spelling
import StyleVars.Sass.JsonEncode

/-
  The string literals of the helper stylesheet. It escapes the quotation mark, the backslash and
  the line feed, and passes every other character on. That is enough for every character but the
  control characters: no literal may hold one of these as it is. So the literal of a text is read
  as that text if the line feed is the only control character in it, and is not read at all
  otherwise (`read?_stringText`).
-/

namespace StyleVars.Sass.JsonEncode

open Json (CharSpelling StringSpelling)

/-- A character that the helper spells as JSON does: all but the control characters, and of these
the line feed. -/
def IsCleanChar (c : Char) : Prop := 0x20 ≤ c.toNat ∨ c = '\n'

/-- A text of such characters. -/
def IsClean (t : Text) : Prop := ∀ c ∈ t, IsCleanChar c

instance (c : Char) : Decidable (IsCleanChar c) := inferInstanceAs (Decidable (_ ∨ _))

instance (t : Text) : Decidable (IsClean t) := List.decidableBAll IsCleanChar t

variable {c : Char} {t : Text}

theorem charSpelling_escapeChar (h : IsCleanChar c) : CharSpelling c (escapeChar c) := by
  unfold escapeChar
  split_ifs with hquote hbackslash hfeed
  · subst hquote
    exact .short rfl
  · subst hbackslash
    exact .short rfl
  · subst hfeed
    exact .short rfl
  · exact .raw hquote hbackslash (h.resolve_right hfeed)

theorem stringSpelling_escapeString (h : IsClean t) : StringSpelling t (escapeString t) := by
  induction t with
  | nil => exact .nil
  | cons c t ih =>
    have hc := charSpelling_escapeChar (h c List.mem_cons_self)
    exact .cons hc (ih fun d hd => h d (List.mem_cons_of_mem c hd))

/-- A control character ends the reading of a literal. -/
theorem stringRest_control (h : c.toNat < 0x20) (r : Text) :
    Json.stringRest none (c :: r) = none := by
  have hbackslash : c ≠ '\\' := by
    rintro rfl
    exact absurd h (by decide)
  rw [Json.stringRest.eq_7 _ _ _ (fun _ _ _ _ _ hc => absurd hc hbackslash)
    (fun _ _ hc => absurd hc hbackslash)]
  exact if_pos (.inr (.inr h))

/-- All but the line feed are passed on. -/
theorem escapeChar_of_not_clean (h : ¬ IsCleanChar c) : escapeChar c = [c] ∧ c.toNat < 0x20 := by
  obtain ⟨hcontrol, hfeed⟩ := not_or.mp h
  have hlow : c.toNat < 0x20 := Nat.lt_of_not_le hcontrol
  have hquote : c ≠ '"' := by
    rintro rfl
    exact absurd hlow (by decide)
  have hbackslash : c ≠ '\\' := by
    rintro rfl
    exact absurd hlow (by decide)
  unfold escapeChar
  rw [if_neg hquote, if_neg hbackslash, if_neg hfeed]
  exact ⟨rfl, hlow⟩

/-- The induction goes on to the first control character: what stands before it is read. -/
theorem stringRest_of_not_clean (h : ¬ IsClean t) (r : Text) :
    Json.stringRest none (escapeString t ++ r) = none := by
  induction t with
  | nil => exact absurd (fun c hc => nomatch hc) h
  | cons c t ih =>
    unfold escapeString at ih ⊢
    rw [List.flatMap_cons, List.append_assoc]
    by_cases hc : IsCleanChar c
    · have ht : ¬ IsClean t := fun ht => h (List.forall_mem_cons.mpr ⟨hc, ht⟩)
      rw [(charSpelling_escapeChar hc).stringRest_append, ih ht]
      rfl
    · obtain ⟨hescape, hlow⟩ := escapeChar_of_not_clean hc
      rw [hescape]
      exact stringRest_control hlow _

theorem read?_of_clean (h : IsClean t) : Json.read? (stringText t) = some (.string t) :=
  Json.read?_spelling (.string (stringSpelling_escapeString h))

theorem read?_of_not_clean (h : ¬ IsClean t) : Json.read? (stringText t) = none := by
  have hvalue := Json.value_quote (Json.stepsFor (stringText t) - 1) Json.nestingLimit
    (escapeString t ++ ['"'])
  rw [stringRest_of_not_clean h] at hvalue
  have hnone : Json.value (Json.stepsFor (stringText t)) Json.nestingLimit (stringText t) = none :=
    hvalue
  unfold Json.read?
  rw [hnone]

/-- The literal of a text is read as the text if no control character but the line feed is in it,
and is no JSON text otherwise. -/
theorem read?_stringText (t : Text) :
    Json.read? (stringText t) = if IsClean t then some (.string t) else none := by
  by_cases h : IsClean t
  · rw [if_pos h, read?_of_clean h]
  · rw [if_neg h, read?_of_not_clean h]

/-- A tab is passed on, and the literal is no JSON text. -/
theorem read?_stringText_tab : Json.read? (stringText "tab\tx".toList) = none :=
  read?_of_not_clean (by decide)

end StyleVars.Sass.JsonEncode
