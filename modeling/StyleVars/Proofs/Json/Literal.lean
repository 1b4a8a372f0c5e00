import Mathlib.Data.List.TakeDrop
import Mathlib.Tactic.SplitIfs
import StyleVars.Json.Reader
import StyleVars.Json.Printer

/-
  JSON literals of strings and integers. A string literal may spell a character raw, by a short
  escape or by its number; the reader takes the text back from every spelling
  (`stringRest_spelling`), and the printer writes one (`stringSpelling_escape`). An integer in the
  range of 64-bit integers is read back from its decimal numeral (`number_ofInt`).
-/

namespace StyleVars.Json

/-! ## Strings -/

/-- The spellings of one character inside a string literal. -/
inductive CharSpelling : Char → Text → Prop
  | raw {c : Char} : c ≠ '"' → c ≠ '\\' → 0x20 ≤ c.toNat → CharSpelling c [c]
  | short {c e : Char} : shortEscape? e = some c → CharSpelling c ['\\', e]
  | unit {c h₁ h₂ h₃ h₄ : Char} : unit? h₁ h₂ h₃ h₄ = some c.toNat →
      CharSpelling c ['\\', 'u', h₁, h₂, h₃, h₄]

/-- The spellings of a text between the quotes of a string literal. -/
inductive StringSpelling : Text → Text → Prop
  | nil : StringSpelling [] []
  | cons {c : Char} {t s raw : Text} : CharSpelling c s → StringSpelling t raw →
      StringSpelling (c :: t) (s ++ raw)

theorem stringRest_raw {c : Char} (hq : c ≠ '"') (hb : c ≠ '\\') (h : 0x20 ≤ c.toNat) (r : Text) :
    stringRest none (c :: r) = (stringRest none r).map fun (t, r) => (c :: t, r) := by
  rw [stringRest.eq_7 _ _ _ (fun _ _ _ _ _ hc => absurd hc hb) (fun _ _ hc => absurd hc hb)]
  have hbad : ¬ ((none : Option Nat).isSome ∨ c = '\\' ∨ c.toNat < 0x20) := by
    simp [hb, Nat.not_lt.mpr h]
  rw [if_neg hbad, if_neg hq]

theorem stringRest_short {c e : Char} (h : shortEscape? e = some c) (r : Text) :
    stringRest none ('\\' :: e :: r) = (stringRest none r).map fun (t, r) => (c :: t, r) := by
  have hu : e ≠ 'u' := by
    rintro rfl
    cases h
  exact stringRest.eq_5 _ _ _ (fun _ _ _ _ _ he => absurd he hu) h

/-- A character's number is not that of a surrogate. -/
theorem not_surrogate (c : Char) :
    ¬ (0xD800 ≤ c.toNat ∧ c.toNat ≤ 0xDBFF) ∧ ¬ (0xDC00 ≤ c.toNat ∧ c.toNat ≤ 0xDFFF) := by
  have h : c.toNat < 0xD800 ∨ (0xDFFF < c.toNat ∧ c.toNat < 0x110000) := c.valid
  omega

theorem stringRest_unit {c h₁ h₂ h₃ h₄ : Char} (h : unit? h₁ h₂ h₃ h₄ = some c.toNat) (r : Text) :
    stringRest none ('\\' :: 'u' :: h₁ :: h₂ :: h₃ :: h₄ :: r) =
      (stringRest none r).map fun (t, r) => (c :: t, r) := by
  rw [stringRest.eq_4 _ _ _ _ _ _ h, if_neg (not_surrogate c).1, if_neg (not_surrogate c).2,
    Char.ofNat_toNat]

/-- The reader takes a character back from every spelling, in front of any text. -/
theorem CharSpelling.stringRest_append {c : Char} {s : Text} (h : CharSpelling c s) (r : Text) :
    stringRest none (s ++ r) = (stringRest none r).map fun (t, r) => (c :: t, r) := by
  cases h with
  | raw hq hb h => exact stringRest_raw hq hb h r
  | short h => exact stringRest_short h r
  | unit h => exact stringRest_unit h r

/-- The reader takes the text back from every spelling. -/
theorem stringRest_spelling {t raw : Text} (h : StringSpelling t raw) (r : Text) :
    stringRest none (raw ++ '"' :: r) = some (t, r) := by
  induction h with
  | nil => rfl
  | cons hc _ ih =>
    rw [List.append_assoc, hc.stringRest_append, ih]
    rfl

/-- A character that stands for itself in a string literal. -/
def IsRawChar (c : Char) : Prop := c ≠ '"' ∧ c ≠ '\\' ∧ 0x20 ≤ c.toNat

/-- A text of such characters. -/
def IsRaw (t : Text) : Prop := ∀ c ∈ t, IsRawChar c

instance (c : Char) : Decidable (IsRawChar c) := inferInstanceAs (Decidable (_ ∧ _))

instance (t : Text) : Decidable (IsRaw t) := List.decidableBAll IsRawChar t

theorem isRawChar_of_isDigit {c : Char} (h : c.isDigit = true) : IsRawChar c := by
  have hrange : '0'.toNat ≤ c.toNat := by
    simp only [Char.isDigit, Bool.and_eq_true, decide_eq_true_eq] at h
    exact h.1
  refine ⟨?_, ?_, Nat.le_trans (by decide) hrange⟩
  · rintro rfl
    cases h
  · rintro rfl
    cases h

theorem stringSpelling_of_raw {t : Text} (h : IsRaw t) : StringSpelling t t := by
  induction t with
  | nil => exact .nil
  | cons c t ih =>
    obtain ⟨hquote, hbackslash, hcontrol⟩ := h c List.mem_cons_self
    exact .cons (.raw hquote hbackslash hcontrol)
      (ih fun d hd => h d (List.mem_cons_of_mem c hd))

theorem hex_four : ∀ n < 0x20,
    Text.hex 4 n = ['0', '0', Nat.digitChar (n / 16), Nat.digitChar (n % 16)] ∧
      unit? '0' '0' (Nat.digitChar (n / 16)) (Nat.digitChar (n % 16)) = some n := by
  decide

/-- The printer's choice for each character is one of its spellings. -/
theorem charSpelling_escapeChar (c : Char) : CharSpelling c (escapeChar c) := by
  unfold escapeChar
  split_ifs with hquote hplain h8 h9 hA hC hD
  · rcases hquote with rfl | rfl
    · exact .short rfl
    · exact .short rfl
  · rw [not_or] at hquote
    exact .raw hquote.1 hquote.2 hplain
  · obtain rfl : c = '\x08' := Char.toNat_inj.mp h8
    exact .short rfl
  · obtain rfl : c = '\t' := Char.toNat_inj.mp h9
    exact .short rfl
  · obtain rfl : c = '\n' := Char.toNat_inj.mp hA
    exact .short rfl
  · obtain rfl : c = '\x0c' := Char.toNat_inj.mp hC
    exact .short rfl
  · obtain rfl : c = '\r' := Char.toNat_inj.mp hD
    exact .short rfl
  · obtain ⟨hhex, hunit⟩ := hex_four c.toNat (Nat.lt_of_not_le hplain)
    rw [hhex]
    exact .unit hunit

theorem stringSpelling_escape (t : Text) : StringSpelling t (t.flatMap escapeChar) := by
  induction t with
  | nil => exact .nil
  | cons c t ih => exact .cons (charSpelling_escapeChar c) ih

/-! ## Integers -/

/-- A text that cannot continue a number literal. -/
def EndsNumber (r : Text) : Prop :=
  ∀ c ∈ r.head?, c.isDigit = false ∧ c ≠ '.' ∧ c ≠ 'e' ∧ c ≠ 'E'

theorem endsNumber_nil : EndsNumber [] := by
  intro c hc
  cases hc

theorem endsNumber_cons {c : Char} (h : c.isDigit = false ∧ c ≠ '.' ∧ c ≠ 'e' ∧ c ≠ 'E')
    (r : Text) : EndsNumber (c :: r) := by
  rintro d ⟨⟩
  exact h

theorem digits_append {ds r : Text} (hd : ∀ c ∈ ds, c.isDigit = true) (hr : EndsNumber r) :
    digits (ds ++ r) = (ds, r) := by
  unfold digits
  rw [List.span_eq_takeWhile_dropWhile, List.takeWhile_append_of_pos hd,
    List.dropWhile_append_of_pos hd]
  cases r with
  | nil => rw [List.takeWhile_nil, List.dropWhile_nil, List.append_nil]
  | cons c r =>
    have hc : ¬ c.isDigit = true := by simp [(hr c rfl).1]
    rw [List.takeWhile_cons_of_neg hc, List.dropWhile_cons_of_neg hc, List.append_nil]

theorem fractionPart_of_endsNumber {r : Text} (hr : EndsNumber r) :
    fractionPart r = some (none, r) := by
  unfold fractionPart
  split
  · exact absurd rfl (hr '.' rfl).2.1
  · rfl

theorem exponentPart_of_endsNumber {r : Text} (hr : EndsNumber r) :
    exponentPart r = some (none, r) := by
  cases r with
  | nil => rfl
  | cons c r =>
    have hc := hr c rfl
    unfold exponentPart
    exact if_neg fun h => h.elim hc.2.2.1 hc.2.2.2

theorem isDigit_ofNat {n : Nat} : ∀ c ∈ Text.ofNat n, c.isDigit = true :=
  fun _ hc => Nat.isDigit_of_mem_toDigits (by decide) (by decide) hc

theorem head?_ofNat_ne_zero {n : Nat} (hn : n ≠ 0) : (Text.ofNat n).head? ≠ some '0' := by
  unfold Text.ofNat
  induction n using Nat.strongRecOn with
  | ind n ih =>
    rcases Nat.lt_or_ge n 10 with h | h
    · have hall : ∀ n < 10, n ≠ 0 → (Nat.toDigits 10 n).head? ≠ some '0' := by decide
      exact hall n h hn
    · have hdiv := ih (n / 10) (by omega) (by omega)
      obtain ⟨c, cs, hcs⟩ := List.exists_cons_of_ne_nil (@Nat.toDigits_ne_nil (n / 10) 10)
      rw [hcs] at hdiv
      rwa [Nat.toDigits_of_base_le (by decide) h, hcs]

/-- Only zero has a numeral that starts with a zero, and that is a zero alone. -/
theorem ofNat_no_leading_zero (n : Nat) :
    ¬ ((Text.ofNat n).head? = some '0' ∧ 1 < (Text.ofNat n).length) := by
  rintro ⟨hhead, hlen⟩
  by_cases hn : n = 0
  · subst hn
    revert hlen
    decide
  · exact head?_ofNat_ne_zero hn hhead

theorem digitValue?_of_isDigit {c : Char} (h : c.isDigit = true) :
    digitValue? 10 c = some (c.toNat - '0'.toNat) := by
  have h0 : '0' ≤ c ∧ c ≤ '9' := by simpa [Char.isDigit, Char.le_def] using h
  have hle : c.toNat ≤ '9'.toNat := h0.2
  unfold digitValue?
  dsimp only
  rw [if_pos h0, if_pos]
  have h9 : '9'.toNat = 57 := rfl
  have h0 : '0'.toNat = 48 := rfl
  omega

/-- On decimal digits the value of a numeral is the library's. -/
theorem foldl_digits {ds : Text} (h : ∀ c ∈ ds, c.isDigit = true) (n : Nat) :
    ds.foldl (fun n c => n * 10 + (digitValue? 10 c).getD 0) n = Nat.ofDigitChars 10 ds n := by
  induction ds generalizing n with
  | nil => rw [List.foldl_nil, Nat.ofDigitChars_nil]
  | cons c ds ih =>
    rw [List.foldl_cons, Nat.ofDigitChars_cons,
      digitValue?_of_isDigit (h c List.mem_cons_self), Option.getD_some, Nat.mul_comm n]
    exact ih (fun d hd => h d (List.mem_cons_of_mem c hd)) _

theorem numberOfDigits_ofNat (n : Nat) : numberOfDigits 10 (Text.ofNat n) = n := by
  unfold numberOfDigits
  rw [foldl_digits isDigit_ofNat]
  exact Nat.ofDigitChars_ten_toDigits

theorem numberParts_ofNat (n : Nat) {r : Text} (hr : EndsNumber r) :
    numberParts (Text.ofNat n ++ r) = some ((Text.ofNat n, none, none), r) := by
  have hne : (Text.ofNat n).isEmpty = false := by
    rw [List.isEmpty_eq_false_iff]
    exact Nat.toDigits_ne_nil
  unfold numberParts
  rw [digits_append isDigit_ofNat hr]
  dsimp only
  rw [if_neg (by simpa [hne] using ofNat_no_leading_zero n), fractionPart_of_endsNumber hr]
  dsimp only [Option.bind_some]
  rw [exponentPart_of_endsNumber hr]
  rfl

/-- An integer in the range of 64-bit integers, signed or not. -/
def IsWord64 (i : Int) : Prop := -0x8000000000000000 ≤ i ∧ i ≤ 0xFFFFFFFFFFFFFFFF

theorem ofNat_eq_cons (n : Nat) : ∃ c cs, Text.ofNat n = c :: cs ∧ c.isDigit = true := by
  obtain ⟨c, cs, h⟩ := List.exists_cons_of_ne_nil (@Nat.toDigits_ne_nil n 10)
  have hc : c ∈ Text.ofNat n := by
    rw [Text.ofNat, h]
    exact List.mem_cons_self
  exact ⟨c, cs, h, isDigit_ofNat c hc⟩

/-- A number literal behind its sign, and what follows it. -/
def unsigned (negative : Bool) (t : Text) : Option (Json × Text) :=
  match numberParts t with
  | none => none
  | some ((whole, none, none), r) => (integerOf? negative whole).map (·, r)
  | some ((whole, part, exponent), r) =>
    (floatOf? negative whole (part.getD []) (exponent.getD 0)).map (.float ·, r)

theorem number_minus (t : Text) : number ('-' :: t) = unsigned true t := rfl

theorem number_of_ne_minus {c : Char} (hc : c ≠ '-') (t : Text) :
    number (c :: t) = unsigned false (c :: t) := by
  unfold number
  split
  next hsign =>
    split at hsign
    · next h => exact absurd (List.cons.inj h).1 hc
    · obtain ⟨rfl, rfl⟩ := Prod.mk.inj hsign
      rfl

/-- A 64-bit integer is read back from its numeral. -/
theorem number_ofInt {i : Int} (hi : IsWord64 i) {r : Text} (hr : EndsNumber r) :
    number (Text.ofInt i ++ r) = some (.integer i, r) := by
  obtain ⟨hlow, hhigh⟩ := hi
  cases i with
  | ofNat n =>
    obtain ⟨c, cs, hcs, hc⟩ := ofNat_eq_cons n
    have hparts := numberParts_ofNat n hr
    have hle : n ≤ significandLimit := by
      unfold significandLimit
      simp only [Int.ofNat_eq_natCast] at hhigh
      omega
    have hvalue : integerOf? false (Text.ofNat n) = some (.integer n) := by
      unfold integerOf?
      rw [numberOfDigits_ofNat]
      exact if_pos hle
    have hne : c ≠ '-' := by
      rintro rfl
      cases hc
    rw [Text.ofInt]
    rw [hcs] at hparts hvalue ⊢
    rw [List.cons_append, number_of_ne_minus hne, ← List.cons_append, unsigned, hparts]
    dsimp only
    rw [hvalue]
    rfl
  | negSucc n =>
    have hrange : 0 < n + 1 ∧ n + 1 ≤ 0x8000000000000000 := by
      rw [Int.negSucc_eq] at hlow
      omega
    have hvalue : integerOf? true (Text.ofNat (n + 1)) = some (.integer (Int.negSucc n)) := by
      unfold integerOf?
      rw [numberOfDigits_ofNat]
      exact if_pos hrange
    rw [Text.ofInt, List.cons_append, number_minus, unsigned, numberParts_ofNat (n + 1) hr]
    dsimp only
    rw [hvalue]
    rfl

end StyleVars.Json
