import StyleVars.Variable.Token
import StyleVars.Proofs.Text.Affix
import StyleVars.Proofs.Text.Guarded

/-
  The shape of variable tokens, and what it gives. A token is the sigil and a non-empty run of
  units (`IsToken`); the scan takes nothing else (`isToken_of_mem_tokens`). On tokens `key` loses
  nothing: `ofKey` writes the token back, so different tokens have different keys.
-/

namespace StyleVars.Variable

/-! ## Tokens -/

/-- A run of units. -/
inductive Units : Text → Prop
  | nil : Units []
  | plain {c : Char} {r : Text} : isPlainUnit c = true → Units r → Units (c :: r)
  | escape {c : Char} {r : Text} : escapable.contains c = true → Units r → Units ('\\' :: c :: r)

/-- The sigil and at least one unit. -/
def IsToken (name : Text) : Prop := ∃ us, us ≠ [] ∧ Units us ∧ name = sigil :: us

theorem units_unitRun (t : Text) : Units (unitRun t).1 := by
  fun_induction unitRun t with
  | case1 => exact .nil
  | case2 c r h ih => exact .escape h ih
  | case3 => exact .nil
  | case4 c r _ h ih => exact .plain h ih
  | case5 => exact .nil

/-- What the scan does at a sigil, without the bound that makes the recursion end. -/
theorem tokens_sigil (r : Text) : tokens (sigil :: r) =
    match unitRun r with
    | ([], _) => tokens r
    | (u :: us, rest) => (sigil :: u :: us) :: tokens rest := by
  rw [tokens, if_pos rfl]
  split
  · next h _ => rw [h]
  · next h _ => rw [h]

theorem tokens_cons {c : Char} (h : c ≠ sigil) (r : Text) : tokens (c :: r) = tokens r := by
  rw [tokens, if_neg h]

/-- A sigil with units behind it starts a token. -/
theorem tokens_of_unitRun {r us rest : Text} (hne : us ≠ []) (h : unitRun r = (us, rest)) :
    tokens (sigil :: r) = (sigil :: us) :: tokens rest := by
  obtain ⟨u, us, rfl⟩ := List.exists_cons_of_ne_nil hne
  rw [tokens_sigil, h]

/-- The scan passes over a text without the sigil. -/
theorem tokens_append_of_notMem {s : Text} (h : sigil ∉ s) (t : Text) :
    tokens (s ++ t) = tokens t := by
  induction s with
  | nil => rfl
  | cons c s ih =>
    rw [List.mem_cons, not_or] at h
    rw [List.cons_append, tokens_cons (Ne.symm h.1), ih h.2]

theorem tokens_of_notMem {t : Text} (h : sigil ∉ t) : tokens t = [] := by
  have happend := tokens_append_of_notMem h []
  rw [List.append_nil] at happend
  rw [happend, tokens]

theorem isToken_of_mem_tokens {t name : Text} (h : name ∈ tokens t) : IsToken name := by
  induction t using tokens.induct with
  | case1 =>
    rw [tokens] at h
    cases h
  | case2 r rest _ hrun ih =>
    rw [tokens_sigil, hrun] at h
    exact ih h
  | case3 r u us rest _ hrun ih =>
    rw [tokens_sigil, hrun] at h
    rcases List.mem_cons.mp h with rfl | h
    · have hu := units_unitRun r
      rw [hrun] at hu
      exact ⟨u :: us, List.cons_ne_nil u us, hu, rfl⟩
    · exact ih h
  | case4 c r hc ih =>
    rw [tokens_cons hc] at h
    exact ih h

/-! ## Characters of a token -/

theorem escapable_not_plain {c : Char} (h : escapable.contains c = true) :
    isPlainUnit c = false := by
  have hall : escapable.all (fun c => !isPlainUnit c) = true := by decide
  have hc := List.all_eq_true.mp hall c (List.contains_iff_mem.mp h)
  simpa using hc

theorem plain_ne {c d : Char} (h : isPlainUnit c = true) (hd : isPlainUnit d = false) : c ≠ d := by
  rintro rfl
  rw [hd] at h
  cases h

theorem plain_ne_backslash {c : Char} (h : isPlainUnit c = true) : c ≠ '\\' :=
  plain_ne h (by decide)

/-- A name is a text in which a backslash takes the next character along; all other characters
of it are units on their own. -/
theorem Units.guarded {us : Text} (h : Units us) : Text.Guarded (isPlainUnit · = true) us := by
  induction h with
  | nil => exact .nil
  | plain hc _ ih => exact .plain (plain_ne_backslash hc) hc ih
  | escape _ _ ih => exact .escape ih

/-! ## Runs of units -/

theorem unitRun_plain {c : Char} (h : isPlainUnit c = true) (r : Text) :
    unitRun (c :: r) = (c :: (unitRun r).1, (unitRun r).2) := by
  rw [unitRun.eq_3, if_pos h]
  rintro d s rfl -
  exact plain_ne_backslash h rfl

theorem unitRun_escape {c : Char} (h : escapable.contains c = true) (r : Text) :
    unitRun ('\\' :: c :: r) = ('\\' :: c :: (unitRun r).1, (unitRun r).2) := by
  rw [unitRun, if_pos h]

theorem unitRun_stop {c : Char} (h : isPlainUnit c = false) (hb : c ≠ '\\') (r : Text) :
    unitRun (c :: r) = ([], c :: r) := by
  rw [unitRun.eq_3, if_neg (by simp [h])]
  intro d s hcons
  exact absurd hcons hb

/-! ## Keys -/

theorem unescape_cons {c : Char} (h : c ≠ '\\') (r : Text) :
    unescape (c :: r) = c :: unescape r := by
  rw [unescape.eq_4]
  · intro hc
    exact absurd hc h
  · intro d s hc
    exact absurd hc h

theorem key_cons (us : Text) : key (sigil :: us) = unescape us := by
  unfold key
  rw [show Text.stripPrefix? [sigil] (sigil :: us) = some us from
    Text.stripPrefix?_append [sigil] us]
  rfl

/-- The token that a key comes from: the sigil, and a backslash before each character of the
escapable punctuation. -/
def ofKey (key : Text) : Text :=
  sigil :: key.flatMap fun c => if escapable.contains c then ['\\', c] else [c]

theorem ofKey_unescape {us : Text} (h : Units us) : ofKey (unescape us) = sigil :: us := by
  unfold ofKey
  congr 1
  induction h with
  | nil => rfl
  | plain hc _ ih =>
    rw [unescape_cons (plain_ne_backslash hc), List.flatMap_cons, ih,
      if_neg fun he => by simp [escapable_not_plain he] at hc]
    rfl
  | escape hc _ ih =>
    rw [unescape, List.flatMap_cons, ih, if_pos hc]
    rfl

/-- Nothing about a token is lost in its key. -/
theorem ofKey_key {name : Text} (h : IsToken name) : ofKey (key name) = name := by
  obtain ⟨us, -, hu, rfl⟩ := h
  rw [key_cons, ofKey_unescape hu]

theorem key_ne_nil {name : Text} (h : IsToken name) : key name ≠ [] := by
  obtain ⟨us, hne, hu, rfl⟩ := h
  rw [key_cons]
  cases hu with
  | nil => exact absurd rfl hne
  | plain hc _ =>
    rw [unescape_cons (plain_ne_backslash hc)]
    exact List.cons_ne_nil _ _
  | escape _ _ =>
    rw [unescape]
    exact List.cons_ne_nil _ _

theorem key_inj {m n : Text} (hm : IsToken m) (hn : IsToken n) (h : key m = key n) : m = n := by
  rw [← ofKey_key hm, h, ofKey_key hn]

end StyleVars.Variable
