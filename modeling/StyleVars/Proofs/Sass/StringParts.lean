import StyleVars.Proofs.Text.Guarded
import StyleVars.Sass.Lexical

/-
  Reading the parts of a quoted string. Outside of interpolations a guarded text is taken over as
  it stands (`stringRest_text`). Inside of one, `Crosses quote a s b` says that the reader copies
  `s` to the source of the interpolation while what is open changes from `a` to `b`; crossings
  compose, so that the source of an interpolation is crossed piece by piece.
-/

namespace StyleVars.Sass

open Text (Guarded)

/-! ## Text -/

/-- A character that a string in these quotes may hold as it is, outside of interpolations. -/
def IsLiteral (quote c : Char) : Prop := c ≠ quote ∧ c ≠ '#' ∧ isBreak c = false

instance (quote c : Char) : Decidable (IsLiteral quote c) := inferInstanceAs (Decidable (_ ∧ _))

theorem stringRest_backslash (quote c : Char) (r : Text) :
    stringRest quote [] ('\\' :: c :: r) =
      (stringRest quote [] r).map fun (ps, r) => (consText '\\' (consText c ps), r) := rfl

theorem stringRest_literal {quote c : Char} (hb : c ≠ '\\') (hc : IsLiteral quote c) (r : Text) :
    stringRest quote [] (c :: r) =
      (stringRest quote [] r).map fun (ps, r) => (consText c ps, r) := by
  obtain ⟨hq, hh, hl⟩ := hc
  rw [stringRest.eq_4, if_neg hq, if_neg (by simp [hb, hl])]
  · intro d s h
    exact absurd h hb
  · intro s h
    exact absurd h hh

/-- A guarded text is taken over as it stands. -/
theorem stringRest_text {quote : Char} {raw : Text} (h : Guarded (IsLiteral quote) raw)
    (r : Text) :
    stringRest quote [] (raw ++ r) =
      (stringRest quote [] r).map fun (ps, r) => (raw.foldr consText ps, r) := by
  induction h with
  | nil =>
    rw [List.nil_append]
    cases stringRest quote [] r <;> rfl
  | plain hb hc _ ih =>
    rw [List.cons_append, stringRest_literal hb hc, ih, Option.map_map]
    rfl
  | escape _ ih =>
    rw [List.cons_append, List.cons_append, stringRest_backslash, ih, Option.map_map]
    rfl

/-- A run of text in front of parts that do not start with text is a part of its own. -/
theorem foldr_consText {raw : Text} (hraw : raw ≠ []) {ps : List StringPart}
    (hps : ∀ t qs, ps ≠ .text t :: qs) : raw.foldr consText ps = .text raw :: ps := by
  induction raw with
  | nil => exact absurd rfl hraw
  | cons c raw ih =>
    cases raw with
    | nil =>
      unfold List.foldr consText
      split
      · next h => exact absurd h (hps _ _)
      · rfl
    | cons d raw =>
      rw [List.foldr_cons, ih (List.cons_ne_nil d raw)]
      rfl

/-! ## Interpolations -/

/-- The reader copies `s` to the source of an interpolation, and what is open changes from `a` to
`b`. -/
def Crosses (quote : Char) (a : List Open) (s : Text) (b : List Open) : Prop :=
  ∀ r, stringRest quote a (s ++ r) =
    (stringRest quote b r).map fun (ps, r) => (s.foldr consSource ps, r)

theorem foldr_consSource (s t : Text) (ps : List StringPart) :
    s.foldr consSource (.interpolation t :: ps) = .interpolation (s ++ t) :: ps := by
  induction s with
  | nil => rfl
  | cons c s ih =>
    rw [List.foldr_cons, ih]
    rfl

theorem Crosses.append {quote : Char} {a b c : List Open} {s t : Text} (hs : Crosses quote a s b)
    (ht : Crosses quote b t c) : Crosses quote a (s ++ t) c := by
  intro r
  rw [List.append_assoc, hs, ht, Option.map_map]
  congr 1
  funext ⟨ps, r⟩
  exact congrArg (·, r) List.foldr_append.symm

/-- A character that changes nothing inside an interpolation, neither among its braces nor in a
string of it. -/
def IsNeutral (c : Char) : Prop := c ≠ '#' ∧ c ≠ '\x7b' ∧ c ≠ '\x7d' ∧ c ≠ '"' ∧ c ≠ '\''

instance (c : Char) : Decidable (IsNeutral c) := inferInstanceAs (Decidable (_ ∧ _))

/-- What an interpolation may have open innermost: a brace, or a string in quotes of either
kind. -/
def IsOpen (o : Open) : Prop := o = .brace ∨ o = .string '"' ∨ o = .string '\''

theorem openAfter_neutral {o : Open} (ho : IsOpen o) (outer : List Open) {c : Char}
    (hc : IsNeutral c) : openAfter (o :: outer) c = o :: outer := by
  obtain ⟨-, hopen, hclose, hdouble, hsingle⟩ := hc
  rcases ho with rfl | rfl | rfl
  · simp [openAfter, hopen, hclose, hdouble, hsingle]
  · simp [openAfter, hdouble]
  · simp [openAfter, hsingle]

/-- A character after which something is open still belongs to the interpolation. -/
theorem crosses_char {quote c : Char} {o p : Open} {a b : List Open} (hb : c ≠ '\\')
    (hh : c ≠ '#') (h : openAfter (o :: a) c = p :: b) :
    Crosses quote (o :: a) [c] (p :: b) := by
  intro r
  rw [List.singleton_append, stringRest.eq_7, h]
  · rfl
  · intro d s hc
    exact absurd hc hb
  · intro q s _ hc
    exact absurd hc hh

theorem crosses_neutral {quote c : Char} {o : Open} (ho : IsOpen o) (outer : List Open)
    (hb : c ≠ '\\') (hc : IsNeutral c) : Crosses quote (o :: outer) [c] (o :: outer) :=
  crosses_char hb hc.1 (openAfter_neutral ho outer hc)

theorem crosses_escape (quote c : Char) (o : Open) (outer : List Open) :
    Crosses quote (o :: outer) ['\\', c] (o :: outer) := by
  intro r
  rfl

/-- A guarded text of neutral characters is crossed and leaves open what was. -/
theorem crosses_guarded {quote : Char} {o : Open} (ho : IsOpen o) (outer : List Open) {s : Text}
    (h : Guarded IsNeutral s) : Crosses quote (o :: outer) s (o :: outer) := by
  induction h with
  | nil =>
    intro r
    rw [List.nil_append]
    cases stringRest quote (o :: outer) r <;> rfl
  | plain hb hc _ ih => exact (crosses_neutral ho outer hb hc).append ih
  | @escape c _ _ ih => exact (crosses_escape quote c o outer).append ih

/-- A string inside an interpolation. -/
theorem crosses_string {quote q : Char} (hq : q = '"' ∨ q = '\'') (outer : List Open) {s : Text}
    (h : Guarded IsNeutral s) :
    Crosses quote (.brace :: outer) (q :: (s ++ [q])) (.brace :: outer) := by
  have hopen : Crosses quote (.brace :: outer) [q] (.string q :: .brace :: outer) := by
    rcases hq with rfl | rfl
    · exact crosses_char (by decide) (by decide) rfl
    · exact crosses_char (by decide) (by decide) rfl
  have hclose : Crosses quote (.string q :: .brace :: outer) [q] (.brace :: outer) := by
    rcases hq with rfl | rfl
    · exact crosses_char (by decide) (by decide) rfl
    · exact crosses_char (by decide) (by decide) rfl
  have hbody : Crosses quote (.string q :: .brace :: outer) s (.string q :: .brace :: outer) := by
    rcases hq with rfl | rfl
    · exact crosses_guarded (.inr (.inl rfl)) _ h
    · exact crosses_guarded (.inr (.inr rfl)) _ h
  exact hopen.append (hbody.append hclose)

/-- An interpolation whose source is crossed is a part of the string. -/
theorem stringRest_interpolation {quote : Char} {source : Text}
    (h : Crosses quote [.brace] source [.brace]) (r : Text) :
    stringRest quote [] ('#' :: '\x7b' :: (source ++ '\x7d' :: r)) =
      (stringRest quote [] r).map fun (ps, r) => (.interpolation source :: ps, r) := by
  have hopen : stringRest quote [] ('#' :: '\x7b' :: (source ++ '\x7d' :: r)) =
      stringRest quote [.brace] (source ++ '\x7d' :: r) := rfl
  have hclose : stringRest quote [.brace] ('\x7d' :: r) =
      (stringRest quote [] r).map fun (ps, r) => (.interpolation [] :: ps, r) := rfl
  -- The closing brace empties the stack: there the source starts as the empty text.
  rw [hopen, h, hclose, Option.map_map]
  congr 1
  funext ⟨ps, r⟩
  dsimp only [Function.comp_apply]
  rw [foldr_consSource, List.append_nil]

end StyleVars.Sass
