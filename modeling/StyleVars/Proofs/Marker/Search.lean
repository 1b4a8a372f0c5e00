import Mathlib.Data.List.TakeWhile
import Mathlib.Data.Nat.Find
import StyleVars.Proofs.Marker.Declaration

/-
  What the search for the marker finds, said without the search. A complete declaration stands at a
  position when the text from there on is some layout of it (`DeclaredAt`); the reader accepts
  exactly these (`declaration?_eq_some`), and each in one way only (`Declares.unique`); so the search
  gives the string of the first of them (`find?_eq_some`), nothing only if there is none
  (`find?_eq_none`), and passes over whatever is incomplete (`find?_append_of_not_declaredAt`).
-/

namespace StyleVars.Marker

variable {property t raw : Text}

/-! ## One declaration -/

theorem exists_whiteSpace (t : Text) :
    ∃ w, (∀ c ∈ w, Text.isWhiteSpace c = true) ∧ t = w ++ Text.dropWhiteSpace t :=
  ⟨t.takeWhile Text.isWhiteSpace, fun _ hc => List.mem_takeWhile_imp hc,
    List.takeWhile_append_dropWhile.symm⟩

theorem quotedString_eq_some {r : Text} (h : quotedString t = some (raw, r)) :
    ∃ q, (q = '\'' ∨ q = '"') ∧ t = q :: (raw ++ q :: r) ∧ Text.Guarded (· ≠ q) raw := by
  unfold quotedString at h
  split at h
  · next s =>
    obtain ⟨rfl, hguarded⟩ := (quotedRest_eq_some (by decide)).mp h
    exact ⟨'\'', .inl rfl, rfl, hguarded⟩
  · next s =>
    obtain ⟨rfl, hguarded⟩ := (quotedRest_eq_some (by decide)).mp h
    exact ⟨'"', .inr rfl, rfl, hguarded⟩
  · cases h

theorem endsDeclaration_eq_true (h : endsDeclaration t = true) :
    ∃ w e post, (∀ c ∈ w, Text.isWhiteSpace c = true) ∧ (e = ';' ∨ e = '\x7d') ∧
      t = w ++ e :: post := by
  obtain ⟨w, hw, ht⟩ := exists_whiteSpace t
  unfold endsDeclaration at h
  split at h
  · next post he =>
    rw [he] at ht
    exact ⟨w, ';', post, hw, .inl rfl, ht⟩
  · next post he =>
    rw [he] at ht
    exact ⟨w, '\x7d', post, hw, .inr rfl, ht⟩
  · cases h

/-- The text starts with a complete declaration of the property, and this is its raw string. -/
def Declares (property t raw : Text) : Prop :=
  ∃ (l : Layout) (post : Text), t = l.write property raw ++ post ∧ Text.Guarded (· ≠ l.quote) raw

/-- What the reader takes for a declaration is one. -/
theorem declaration?_eq_some : declaration? property t = some raw ↔ Declares property t raw := by
  constructor
  · intro h
    unfold declaration? at h
    split at h
    next r hcolon =>
      obtain ⟨u, hu, hdrop⟩ := Option.map_eq_some_iff.mp hcolon
      obtain rfl := Text.stripPrefix?_eq_some.mp hu
      obtain ⟨w, hw, rfl⟩ : ∃ w, (∀ c ∈ w, Text.isWhiteSpace c = true) ∧ u = w ++ ':' :: r := by
        rw [← hdrop]
        exact exists_whiteSpace u
      obtain ⟨w', hw', hr⟩ := exists_whiteSpace r
      split at h
      next raw' rest hquoted =>
        obtain ⟨q, hq, hstring, hguarded⟩ := quotedString_eq_some hquoted
        split at h
        next hend =>
          obtain rfl := Option.some.inj h
          obtain ⟨w'', e, post, hw'', he, rfl⟩ := endsDeclaration_eq_true hend
          refine ⟨⟨w, w', w'', q, e, hw, hw', hw'', hq, he⟩, post, ?_, hguarded⟩
          rw [hr, hstring]
          simp [Layout.write]
        next => cases h
      next => cases h
    next => cases h
  · rintro ⟨l, post, rfl, hguarded⟩
    exact l.declaration?_write property hguarded post

/-- A text can be taken for a declaration in one way only: its string is determined. -/
theorem Declares.unique {raw' : Text} (h : Declares property t raw)
    (h' : Declares property t raw') : raw = raw' := by
  rw [← declaration?_eq_some] at h h'
  exact Option.some.inj (h.symm.trans h')

theorem not_declares_nil : ¬ Declares property [] raw := by
  rintro ⟨l, post, h, -⟩
  have hlength := congrArg List.length h
  simp [Layout.write] at hlength

/-! ## The first declaration -/

/-- At this position of the text stands a complete declaration of the property. -/
def DeclaredAt (property t : Text) (i : Nat) (raw : Text) : Prop :=
  Declares property (t.drop i) raw

/-- The first complete declaration of the property in the text has this raw string. -/
def FirstDeclared (property t raw : Text) : Prop :=
  ∃ i, DeclaredAt property t i raw ∧ ∀ j < i, ∀ raw', ¬ DeclaredAt property t j raw'

/-- The search gives the raw string of the first complete declaration. -/
theorem find?_eq_some : find? property t = some raw ↔ FirstDeclared property t raw := by
  induction t with
  | nil =>
    have hnil : find? property [] = some raw ↔ Declares property [] raw := declaration?_eq_some
    rw [hnil]
    constructor
    · exact fun h => absurd h not_declares_nil
    · rintro ⟨i, hi, -⟩
      unfold DeclaredAt at hi
      rw [List.drop_nil] at hi
      exact absurd hi not_declares_nil
  | cons c r ih =>
    rw [find?, Option.or_eq_some_iff, ih, declaration?_eq_some]
    constructor
    · rintro (hfirst | ⟨hnone, i, hi, hbefore⟩)
      · exact ⟨0, hfirst, fun j hj => absurd hj (Nat.not_lt_zero j)⟩
      · refine ⟨i + 1, hi, fun j hj raw' hraw' => ?_⟩
        cases j with
        | zero => exact absurd (declaration?_eq_some.mpr hraw') (by simp [hnone])
        | succ j => exact hbefore j (Nat.lt_of_succ_lt_succ hj) raw' hraw'
    · rintro ⟨i, hi, hbefore⟩
      cases i with
      | zero => exact .inl hi
      | succ i =>
        refine .inr ⟨?_, i, hi, fun j hj => hbefore (j + 1) (Nat.succ_lt_succ hj)⟩
        rw [Option.eq_none_iff_forall_ne_some]
        exact fun raw' hraw' =>
          hbefore 0 (Nat.succ_pos i) raw' (declaration?_eq_some.mp hraw')

/-- Nothing is found exactly if no declaration is complete. -/
theorem find?_eq_none : find? property t = none ↔ ∀ i raw, ¬ DeclaredAt property t i raw := by
  constructor
  · intro h i raw hi
    have hsome : ∃ i, ∃ raw, DeclaredAt property t i raw := ⟨i, raw, hi⟩
    classical
    obtain ⟨first, hfirst⟩ := Nat.find_spec hsome
    have hfound : FirstDeclared property t first :=
      ⟨Nat.find hsome, hfirst, fun j hj raw' hraw' => Nat.find_min hsome hj ⟨raw', hraw'⟩⟩
    rw [find?_eq_some.mpr hfound] at h
    cases h
  · intro h
    rw [Option.eq_none_iff_forall_ne_some]
    intro raw hraw
    obtain ⟨i, hi, -⟩ := find?_eq_some.mp hraw
    exact h i raw hi

/-- A text in front in which no complete declaration starts plays no part, whatever it holds of
one. -/
theorem find?_append_of_not_declaredAt {pre rest : Text}
    (h : ∀ i < pre.length, ∀ raw, ¬ DeclaredAt property (pre ++ rest) i raw) :
    find? property (pre ++ rest) = find? property rest := by
  refine find?_append_of_declaration? fun s hs hsuf => ?_
  obtain ⟨before, rfl⟩ := hsuf
  have hinside : before.length < (before ++ s).length := by
    have hpositive : 0 < s.length := List.length_pos_iff.mpr hs
    rw [List.length_append]
    omega
  have hdrop : (before ++ s ++ rest).drop before.length = s ++ rest := by
    rw [List.append_assoc, List.drop_left]
  rw [Option.eq_none_iff_forall_ne_some]
  intro raw hraw
  refine h before.length hinside raw ?_
  unfold DeclaredAt
  rw [hdrop]
  exact declaration?_eq_some.mp hraw

end StyleVars.Marker
