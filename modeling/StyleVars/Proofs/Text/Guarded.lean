import StyleVars.Text.Basic

/-
  Texts in which a backslash takes the next character along, whatever it is, and every other
  character satisfies a condition. The raw text of a quoted string is one (no character closes
  the string), and so is a variable name: what a reader has to know of such a text to get past it
  is said here once. Whatever fails the condition has a backslash of its own in front
  (`exists_backslash`).
-/

namespace StyleVars.Text

/-- A backslash takes the next character along; every other character satisfies `p`. -/
inductive Guarded (p : Char → Prop) : Text → Prop
  | nil : Guarded p []
  | plain {c : Char} {r : Text} : c ≠ '\\' → p c → Guarded p r → Guarded p (c :: r)
  | escape {c : Char} {r : Text} : Guarded p r → Guarded p ('\\' :: c :: r)

namespace Guarded

variable {p : Char → Prop} {s t : Text}

theorem append (hs : Guarded p s) (ht : Guarded p t) : Guarded p (s ++ t) := by
  induction hs with
  | nil => exact ht
  | plain hc hp _ ih => exact .plain hc hp ih
  | escape _ ih => exact .escape ih

theorem of_forall (h : ∀ c ∈ t, c ≠ '\\' ∧ p c) : Guarded p t := by
  induction t with
  | nil => exact .nil
  | cons c t ih =>
    have hc := h c List.mem_cons_self
    exact .plain hc.1 hc.2 (ih fun d hd => h d (List.mem_cons_of_mem c hd))

/-- The same, as a test that can be run. -/
theorem of_all [DecidablePred p] (h : t.all (fun c => decide (c ≠ '\\' ∧ p c)) = true) :
    Guarded p t :=
  of_forall fun c hc => of_decide_eq_true (List.all_eq_true.mp h c hc)

/-- Writing every character as a guarded text gives a guarded text. -/
theorem flatMap {f : Char → Text} (h : ∀ c ∈ t, Guarded p (f c)) : Guarded p (t.flatMap f) := by
  induction t with
  | nil => exact .nil
  | cons c t ih =>
    rw [List.flatMap_cons]
    exact (h c List.mem_cons_self).append (ih fun d hd => h d (List.mem_cons_of_mem c hd))

theorem mono {q : Char → Prop} (h : ∀ c, p c → q c) (ht : Guarded p t) : Guarded q t := by
  induction ht with
  | nil => exact .nil
  | plain hc hp _ ih => exact .plain hc (h _ hp) ih
  | escape _ ih => exact .escape ih

/-- A character that does not satisfy the condition stands behind a backslash of its own: one that
no other backslash in front takes along. -/
theorem exists_backslash {before after : Text} {c : Char} (h : Guarded p (before ++ c :: after))
    (hb : c ≠ '\\') (hc : ¬ p c) : ∃ front, before = front ++ ['\\'] ∧ Guarded p front := by
  generalize ht : before ++ c :: after = t at h
  induction h generalizing before with
  | nil => simp at ht
  | @plain d r hd hp _ ih =>
    cases before with
    | nil =>
      obtain ⟨rfl, -⟩ := List.cons.inj ht
      exact absurd hp hc
    | cons b before =>
      obtain ⟨rfl, hrest⟩ := List.cons.inj ht
      obtain ⟨front, rfl, hfront⟩ := ih hrest
      exact ⟨b :: front, rfl, .plain hd hp hfront⟩
  | @escape d r _ ih =>
    cases before with
    | nil => exact absurd (List.cons.inj ht).1 hb
    | cons b before =>
      cases before with
      | nil =>
        obtain ⟨rfl, -⟩ := List.cons.inj ht
        exact ⟨[], rfl, .nil⟩
      | cons b' before =>
        simp only [List.cons_append, List.cons.injEq] at ht
        obtain ⟨rfl, rfl, hrest⟩ := ht
        obtain ⟨front, rfl, hfront⟩ := ih hrest
        exact ⟨'\\' :: b' :: front, rfl, .escape hfront⟩

end Guarded
end StyleVars.Text
