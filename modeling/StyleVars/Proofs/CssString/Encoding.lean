import StyleVars.CssString
import StyleVars.Proofs.Text.Guarded

/-
  What may stand between the quotes of a CSS string for a given text, and that `decode` reads the
  text back. The writer is free at every character: verbatim, behind a backslash, or by number.
  `Encoding q t e` says that `e` is one of these spellings of `t`; it is `Guarded`, so it cannot
  close the string early, and `decode` inverts it (`decode_encoding`).
-/

namespace StyleVars.CssString

/-! ## One escape at a time -/

theorem decode_cons {c : Char} (h : c ≠ '\\') (r : Text) : decode (c :: r) = c :: decode r := by
  rw [decode, if_neg h]

/-- A text without backslashes denotes itself. -/
theorem decode_of_notMem {t : Text} (h : '\\' ∉ t) : decode t = t := by
  induction t with
  | nil => rw [decode]
  | cons c t ih =>
    rw [List.mem_cons, not_or] at h
    rw [decode_cons (Ne.symm h.1), ih h.2]

theorem takeHex_cons_neg {c : Char} (h : isHexDigit c = false) (n : Nat) (r : Text) :
    takeHex n (c :: r) = ([], c :: r) := by
  cases n with
  | zero => rfl
  | succ n => rw [takeHex, if_neg (by simp [h])]

theorem takeHex_append {ds : Text} (hd : ∀ d ∈ ds, isHexDigit d = true) {n : Nat}
    (hn : ds.length ≤ n) {c : Char} (hc : isHexDigit c = false) (r : Text) :
    takeHex n (ds ++ c :: r) = (ds, c :: r) := by
  induction ds generalizing n with
  | nil => exact takeHex_cons_neg hc n r
  | cons d ds ih =>
    cases n with
    | zero => simp at hn
    | succ n =>
      have h := ih (fun d hd' => hd d (List.mem_cons_of_mem _ hd')) (Nat.le_of_succ_le_succ hn)
      rw [List.cons_append, takeHex, if_pos (hd d List.mem_cons_self), h]

/-- What a backslash does, without the bound that makes the recursion end. -/
theorem decode_backslash (r : Text) : decode ('\\' :: r) =
    match takeHex 6 r with
    | (d :: ds, rest) => numbered (d :: ds) :: decode (dropBlank rest)
    | ([], []) => ['\\']
    | ([], e :: rest) => if e = '\n' then decode rest else e :: decode rest := by
  rw [decode, if_pos rfl]
  split
  · next h _ => rw [h]
  · next h _ => rw [h]
  · next h _ => rw [h]

theorem decode_escape {c : Char} (hx : isHexDigit c = false) (hn : c ≠ '\n') (r : Text) :
    decode ('\\' :: c :: r) = c :: decode r := by
  rw [decode_backslash, takeHex_cons_neg hx]
  exact if_neg hn

theorem decode_numbered {ds : Text} (hd : ∀ d ∈ ds, isHexDigit d = true) (h1 : 1 ≤ ds.length)
    (h6 : ds.length ≤ 6) (r : Text) :
    decode ('\\' :: (ds ++ ' ' :: r)) = numbered ds :: decode r := by
  rw [decode_backslash, takeHex_append hd h6 (by decide)]
  cases ds with
  | nil => simp at h1
  | cons d ds => rfl

theorem scalar?_toNat (c : Char) : scalar? c.toNat = some c := by
  have h : c.toNat.isValidChar := c.valid
  unfold scalar?
  rw [dif_pos h]
  congr 1
  apply Char.ext
  exact UInt32.ofNat_toNat

/-- The number of a character other than zero stands for that character. -/
theorem numbered_of_toNat {ds : Text} {c : Char} (h : numberOfDigits 16 ds = c.toNat)
    (h0 : c ≠ '\x00') : numbered ds = c := by
  have hn : c.toNat ≠ 0 := fun hz => h0 (Char.ext (UInt32.toNat_inj.mp hz))
  unfold numbered
  rw [h, if_neg hn, scalar?_toNat]
  rfl

/-! ## Encodings -/

/-- The spellings of one character between the quotes `q`. -/
inductive CharEncoding (q : Char) : Char → Text → Prop
  | verbatim {c : Char} : c ≠ '\\' → c ≠ q → CharEncoding q c [c]
  | escaped {c : Char} : isHexDigit c = false → c ≠ '\n' → CharEncoding q c ['\\', c]
  | numbered {c : Char} {ds : Text} : (∀ d ∈ ds, isHexDigit d = true) → 1 ≤ ds.length →
      ds.length ≤ 6 → numberOfDigits 16 ds = c.toNat → CharEncoding q c ('\\' :: (ds ++ [' ']))

/-- The spellings of a text between the quotes `q`. -/
inductive Encoding (q : Char) : Text → Text → Prop
  | nil : Encoding q [] []
  | cons {c : Char} {t s e : Text} : CharEncoding q c s → Encoding q t e →
      Encoding q (c :: t) (s ++ e)

theorem decode_charEncoding {q c : Char} {s : Text} (h : CharEncoding q c s) (h0 : c ≠ '\x00')
    (r : Text) : decode (s ++ r) = c :: decode r := by
  cases h with
  | verbatim hc _ => exact decode_cons hc r
  | escaped hx hn => exact decode_escape hx hn r
  | numbered hd h1 h6 hv =>
    rw [List.cons_append, List.append_assoc, List.singleton_append, decode_numbered hd h1 h6,
      numbered_of_toNat hv h0]

/-- Decoding undoes every encoding, whatever choices the writer made. -/
theorem decode_encoding {q : Char} {t e : Text} (h : Encoding q t e) (h0 : '\x00' ∉ t) :
    decode e = t := by
  induction h with
  | nil => rw [decode]
  | cons hc _ ih =>
    rw [List.mem_cons, not_or] at h0
    rw [decode_charEncoding hc (Ne.symm h0.1), ih h0.2]

/-- The encoding with no more escapes than it needs: a backslash before each backslash and each
quote. -/
def escape (q : Char) (t : Text) : Text :=
  t.flatMap fun c => if c = '\\' ∨ c = q then ['\\', c] else [c]

theorem encoding_escape {q : Char} (hx : isHexDigit q = false) (hn : q ≠ '\n') (t : Text) :
    Encoding q t (escape q t) := by
  induction t with
  | nil => exact .nil
  | cons c t ih =>
    refine Encoding.cons ?_ ih
    dsimp only
    by_cases h : c = '\\' ∨ c = q
    · rw [if_pos h]
      rcases h with rfl | rfl
      · exact .escaped (by decide) (by decide)
      · exact .escaped hx hn
    · rw [if_neg h]
      exact .verbatim (fun hb => h (Or.inl hb)) (fun hq => h (Or.inr hq))

theorem isHexDigit_ne {q d : Char} (hq : isHexDigit q = false) (hd : isHexDigit d = true) :
    d ≠ q := by
  rintro rfl
  rw [hq] at hd
  cases hd

/-- Nothing in an encoding closes the string: the quote only stands behind a backslash. -/
theorem Encoding.guarded {q : Char} (hq : isHexDigit q = false) (hb : q ≠ ' ') {t e : Text}
    (h : Encoding q t e) : Text.Guarded (· ≠ q) e := by
  induction h with
  | nil => exact .nil
  | cons hc _ ih =>
    cases hc with
    | verbatim hc hq => exact .plain hc hq ih
    | escaped => exact .escape ih
    | @numbered ds hd h1 _ _ =>
      cases ds with
      | nil => simp at h1
      | cons d ds =>
        have hds : Text.Guarded (· ≠ q) (ds ++ [' ']) := by
          apply Text.Guarded.of_forall
          intro c hc
          rcases List.mem_append.mp hc with hc | hc
          · have hx := hd c (List.mem_cons_of_mem d hc)
            exact ⟨isHexDigit_ne (by decide) hx, isHexDigit_ne hq hx⟩
          · obtain rfl := List.mem_singleton.mp hc
            exact ⟨by decide, Ne.symm hb⟩
        exact .escape (hds.append ih)

end StyleVars.CssString
