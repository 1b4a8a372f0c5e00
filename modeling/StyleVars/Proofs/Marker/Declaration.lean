import StyleVars.Marker
import StyleVars.Proofs.Text.Affix
import StyleVars.Proofs.Text.Guarded

/-
  The search for the marker declaration. `quotedRest` reads exactly the guarded texts that end
  at their first bare quote; `declaration?` reads every `Layout`, white space wherever the search
  allows it. The property of a session does not hold its first character again
  (`property_eq_cons`), so no occurrence of it can begin in the text before the declaration and run
  into it: the search passes over that text (`find?_append`).
-/

namespace StyleVars.Marker

/-! ## Quoted strings -/

theorem quotedRest_cons {q c : Char} (hc : c ≠ '\\') (r : Text) :
    quotedRest q (c :: r) =
      if c = q then some ([], r) else (quotedRest q r).map fun (s, r) => (c :: s, r) := by
  rw [quotedRest.eq_3 _ _ _ (fun _ _ h => absurd h hc), if_neg hc]

/-- Reading a quoted string stops at the first quote that no backslash takes along. -/
theorem quotedRest_eq_some {q : Char} (hq : q ≠ '\\') {t raw r : Text} :
    quotedRest q t = some (raw, r) ↔ t = raw ++ q :: r ∧ Text.Guarded (· ≠ q) raw := by
  constructor
  · intro h
    fun_induction quotedRest q t generalizing raw with
    | case1 => cases h
    | case2 c t ih =>
      obtain ⟨⟨s, r'⟩, hs, heq⟩ := Option.map_eq_some_iff.mp h
      obtain ⟨rfl, rfl⟩ := Prod.mk.inj heq
      obtain ⟨rfl, hg⟩ := ih hs
      exact ⟨rfl, .escape hg⟩
    | case3 t _ =>
      obtain ⟨rfl, rfl⟩ := Prod.mk.inj (Option.some.inj h)
      exact ⟨rfl, .nil⟩
    | case4 => cases h
    | case5 c t hb hc hs ih =>
      obtain ⟨⟨s, r'⟩, hs', heq⟩ := Option.map_eq_some_iff.mp h
      obtain ⟨rfl, rfl⟩ := Prod.mk.inj heq
      obtain ⟨rfl, hg⟩ := ih hs'
      exact ⟨rfl, .plain hs hc hg⟩
  · rintro ⟨rfl, hg⟩
    induction hg with
    | nil => rw [List.nil_append, quotedRest_cons hq, if_pos rfl]
    | plain hc hp _ ih => rw [List.cons_append, quotedRest_cons hc, if_neg hp, ih]; rfl
    | escape _ ih => rw [List.cons_append, List.cons_append, quotedRest, ih]; rfl

theorem quotedString_cons {q : Char} (hq : q = '\'' ∨ q = '"') (r : Text) :
    quotedString (q :: r) = quotedRest q r := by
  rcases hq with rfl | rfl <;> rfl

/-! ## Declarations -/

/-- The choices a complete declaration leaves open: the quotes, the terminator, and the white space
around the colon and before the terminator. -/
structure Layout where
  beforeColon : Text
  afterColon : Text
  beforeEnd : Text
  quote : Char
  terminator : Char
  beforeColon_blank : ∀ c ∈ beforeColon, Text.isWhiteSpace c = true
  afterColon_blank : ∀ c ∈ afterColon, Text.isWhiteSpace c = true
  beforeEnd_blank : ∀ c ∈ beforeEnd, Text.isWhiteSpace c = true
  quote_isQuote : quote = '\'' ∨ quote = '"'
  terminator_isEnd : terminator = ';' ∨ terminator = '\x7d'

/-- The declaration of a raw string under a property. -/
def Layout.write (l : Layout) (property raw : Text) : Text :=
  property ++ (l.beforeColon ++ ':' :: (l.afterColon ++
    l.quote :: (raw ++ l.quote :: (l.beforeEnd ++ [l.terminator]))))

namespace Layout

variable (l : Layout)

theorem quote_ne_backslash : l.quote ≠ '\\' := by
  rcases l.quote_isQuote with h | h <;> rw [h] <;> decide

theorem quote_not_whiteSpace : Text.isWhiteSpace l.quote = false := by
  rcases l.quote_isQuote with h | h <;> rw [h] <;> decide

theorem quote_not_hexDigit : isHexDigit l.quote = false := by
  rcases l.quote_isQuote with h | h <;> rw [h] <;> decide

theorem quote_not_blank : l.quote ≠ ' ' ∧ l.quote ≠ '\n' := by
  rcases l.quote_isQuote with h | h <;> rw [h] <;> decide

theorem terminator_not_whiteSpace : Text.isWhiteSpace l.terminator = false := by
  rcases l.terminator_isEnd with h | h <;> rw [h] <;> decide

theorem endsDeclaration_append (post : Text) :
    endsDeclaration (l.beforeEnd ++ l.terminator :: post) = true := by
  unfold endsDeclaration
  rw [Text.dropWhiteSpace_append l.beforeEnd_blank (by simp [l.terminator_not_whiteSpace])]
  rcases l.terminator_isEnd with h | h <;> rw [h] <;> rfl

/-- The search reads the raw string out of every layout, whatever comes after it. -/
theorem declaration?_write (property : Text) {raw : Text}
    (h : Text.Guarded (· ≠ l.quote) raw) (post : Text) :
    declaration? property (l.write property raw ++ post) = some raw := by
  have hcolon : Text.dropWhiteSpace (l.beforeColon ++ ':' :: (l.afterColon ++
      l.quote :: (raw ++ l.quote :: (l.beforeEnd ++ l.terminator :: post)))) =
      ':' :: (l.afterColon ++
        l.quote :: (raw ++ l.quote :: (l.beforeEnd ++ l.terminator :: post))) :=
    Text.dropWhiteSpace_append l.beforeColon_blank (by
      rintro c ⟨⟩
      decide)
  have hquote : Text.dropWhiteSpace (l.afterColon ++
      l.quote :: (raw ++ l.quote :: (l.beforeEnd ++ l.terminator :: post))) =
      l.quote :: (raw ++ l.quote :: (l.beforeEnd ++ l.terminator :: post)) :=
    Text.dropWhiteSpace_append l.afterColon_blank (by simp [l.quote_not_whiteSpace])
  have hrest : quotedRest l.quote (raw ++ l.quote :: (l.beforeEnd ++ l.terminator :: post)) =
      some (raw, l.beforeEnd ++ l.terminator :: post) :=
    (quotedRest_eq_some l.quote_ne_backslash).mpr ⟨rfl, h⟩
  unfold declaration? write
  simp only [List.append_assoc, List.cons_append, List.nil_append, Text.stripPrefix?_append,
    Option.map_some, hcolon, hquote, quotedString_cons l.quote_isQuote, hrest,
    l.endsDeclaration_append, if_true]

end Layout

/-! ## The search -/

theorem find?_of_declaration? {property t raw : Text} (h : declaration? property t = some raw) :
    find? property t = some raw := by
  cases t with
  | nil => exact h
  | cons c r => rw [find?, h, Option.some_or]

/-- The search passes over a text in which no complete declaration starts. -/
theorem find?_append_of_declaration? {property pre rest : Text}
    (h : ∀ s, s ≠ [] → s <:+ pre → declaration? property (s ++ rest) = none) :
    find? property (pre ++ rest) = find? property rest := by
  induction pre with
  | nil => rfl
  | cons c pre ih =>
    have hnone : declaration? property (c :: (pre ++ rest)) = none :=
      h (c :: pre) (List.cons_ne_nil c pre) (List.suffix_refl _)
    rw [List.cons_append, find?, hnone, Option.none_or]
    exact ih fun s hs hsuf => h s hs (hsuf.trans (List.suffix_cons c pre))

/-- In particular over a text in which no occurrence of the property starts. -/
theorem find?_append_of_forall {property pre rest : Text}
    (h : ∀ s, s ≠ [] → s <:+ pre → ¬ property <+: s ++ rest) :
    find? property (pre ++ rest) = find? property rest := by
  refine find?_append_of_declaration? fun s hs hsuf => ?_
  have hstrip : Text.stripPrefix? property (s ++ rest) = none :=
    Text.stripPrefix?_eq_none.mpr (h s hs hsuf)
  unfold declaration?
  rw [hstrip]
  rfl

/-- A text whose first character does not come back in it has no overlap with itself: it can only
start where it stands, or within the text before. -/
theorem not_prefix_append {c : Char} {p pre s rest : Text} (hc : c ∉ p)
    (hpre : ¬ c :: p <:+: pre) (hs : s ≠ []) (hsuf : s <:+ pre) :
    ¬ c :: p <+: s ++ (c :: p ++ rest) := by
  rintro ⟨x, hx⟩
  obtain ⟨d, s, rfl⟩ := List.exists_cons_of_ne_nil hs
  rcases List.append_eq_append_iff.mp hx with ⟨a, ha, -⟩ | ⟨a, ha, hrest⟩
  · exact hpre ((List.IsPrefix.isInfix ⟨a, ha.symm⟩).trans hsuf.isInfix)
  · -- The occurrence ends inside the declared property: its rest `a` starts with `c` again.
    cases a with
    | nil =>
      rw [List.append_nil] at ha
      exact hpre (ha ▸ hsuf.isInfix)
    | cons e a =>
      obtain rfl : e = c := by simpa using congrArg List.head? hrest.symm
      obtain ⟨-, rfl⟩ := List.cons.inj ha
      exact hc (List.mem_append_right s List.mem_cons_self)

theorem find?_append {c : Char} {p pre rest : Text} (hc : c ∉ p) (hpre : ¬ c :: p <:+: pre) :
    find? (c :: p) (pre ++ (c :: p ++ rest)) = find? (c :: p) (c :: p ++ rest) :=
  find?_append_of_forall fun _ hs hsuf => not_prefix_append hc hpre hs hsuf

/-! ## The property of a session -/

theorem isSessionToken_eq_append {token : Text} (h : isSessionToken token = true) :
    ∃ ds, token = tokenHead ++ ds ∧ ds.all isTokenDigit = true := by
  unfold isSessionToken at h
  split at h
  · next ds hds =>
    rw [Bool.and_eq_true] at h
    exact ⟨ds, Text.stripPrefix?_eq_some.mp hds, h.2⟩
  · cases h

/-- A session token holds nothing but the characters of its head and digits. -/
theorem notMem_of_isSessionToken {token : Text} (h : isSessionToken token = true) {c : Char}
    (hhead : c ∉ tokenHead) (hdigit : isTokenDigit c = false) : c ∉ token := by
  obtain ⟨ds, rfl, hds⟩ := isSessionToken_eq_append h
  rw [List.mem_append, not_or]
  refine ⟨hhead, fun hc => ?_⟩
  rw [List.all_eq_true.mp hds c hc] at hdigit
  cases hdigit

/-- The property of a session starts with a character that it does not hold again. -/
theorem property_eq_cons {token : Text} (h : isSessionToken token = true) :
    ∃ p, property token = 'j' :: p ∧ 'j' ∉ p := by
  refine ⟨"son-".toList ++ token ++ propertyTail, rfl, ?_⟩
  simp only [List.mem_append, not_or]
  exact ⟨⟨by decide, notMem_of_isSessionToken h (by decide) (by decide)⟩, by decide⟩

/-- The search finds the declaration behind any text that does not hold the property itself. -/
theorem find?_write {token : Text} (ht : isSessionToken token = true) (l : Layout)
    {pre raw : Text} (hpre : ¬ property token <:+: pre) (h : Text.Guarded (· ≠ l.quote) raw)
    (post : Text) :
    find? (property token) (pre ++ (l.write (property token) raw ++ post)) = some raw := by
  have hfound := find?_of_declaration? (l.declaration?_write (property token) h post)
  obtain ⟨p, hp, hj⟩ := property_eq_cons ht
  unfold Layout.write at hfound ⊢
  rw [List.append_assoc, hp] at hfound ⊢
  rw [hp] at hpre
  rw [find?_append hj hpre, hfound]

/-! ## A sample -/

/-- A session token. -/
def someToken : Text := "sass-vars-0123456789abcdef0123456789abcdef".toList

/-- A layout with white space wherever it may stand, some of it outside ASCII. -/
def spaciousLayout : Layout where
  beforeColon := [' ', '\u00A0']
  afterColon := ['\n']
  beforeEnd := ['\t']
  quote := '\''
  terminator := '\x7d'
  beforeColon_blank := List.all_eq_true.mp (by decide)
  afterColon_blank := List.all_eq_true.mp (by decide)
  beforeEnd_blank := List.all_eq_true.mp (by decide)
  quote_isQuote := Or.inl rfl
  terminator_isEnd := Or.inr rfl

end StyleVars.Marker
