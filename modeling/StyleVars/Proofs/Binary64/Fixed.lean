import Mathlib.Data.List.DropRight
import StyleVars.Binary64.Decimal
import StyleVars.Proofs.Json.Literal

/-
  Numerals with a fixed number of places. A whole number times a power of ten is a whole number, so
  nothing is rounded, and its digits are those of the number and as many zeros; these stand behind
  the point and are left out. What remains is the numeral of the integer (`fixed_of_whole`). Every
  such numeral is made of digits and at most a point (`mem_fixed`).
-/

namespace StyleVars.Binary64

/-- The number has no fraction. -/
def IsWhole (x : Binary64) : Prop := x.ratio.2 ∣ x.ratio.1

instance (x : Binary64) : Decidable x.IsWhole := inferInstanceAs (Decidable (_ ∣ _))

/-- The magnitude without its fraction. -/
def whole (x : Binary64) : Nat := x.ratio.1 / x.ratio.2

/-- The number without its fraction. -/
def truncate (x : Binary64) : Int := if x.negative then -x.whole else x.whole

theorem ratio_pos (x : Binary64) : 0 < x.ratio.2 := by
  unfold ratio scale
  split
  · exact Nat.one_pos
  · exact Nat.mul_pos Nat.one_pos (Nat.pow_pos (by decide))

/-- A quotient without remainder is not rounded. -/
theorem roundQuotient_mul (q : Nat) {d : Nat} (hd : 0 < d) : roundQuotient (q * d) d = q := by
  have hquotient : q * d / d = q := Nat.mul_div_cancel q hd
  have hrest : q * d % d = 0 := Nat.mul_mod_left q d
  unfold roundQuotient
  dsimp only
  rw [hquotient, hrest]
  exact if_neg (by omega)

theorem fixedUnits_of_whole {x : Binary64} (hx : x.IsWhole) (places : Nat) :
    x.fixedUnits places = x.whole * Nat.pow 10 places := by
  have hnum : x.ratio.1 = x.whole * x.ratio.2 := (Nat.div_mul_cancel hx).symm
  have hunits : x.ratio.1 * Nat.pow 10 places = x.whole * Nat.pow 10 places * x.ratio.2 := by
    rw [hnum, Nat.mul_right_comm]
  unfold fixedUnits
  dsimp only
  rw [hunits, roundQuotient_mul _ x.ratio_pos]

/-- A positive number times a power of ten has the number's digits, and zeros. -/
theorem ofNat_mul_pow {n : Nat} (hn : n ≠ 0) (places : Nat) :
    Text.ofNat (n * Nat.pow 10 places) = Text.ofNat n ++ List.replicate places '0' := by
  induction places with
  | zero =>
    have hone : n * Nat.pow 10 0 = n := Nat.mul_one n
    rw [hone, List.replicate_zero, List.append_nil]
  | succ places ih =>
    have hpos : 0 < n * Nat.pow 10 places :=
      Nat.mul_pos (Nat.pos_of_ne_zero hn) (Nat.pow_pos (by decide))
    have hnext : n * Nat.pow 10 (places + 1) = n * Nat.pow 10 places * 10 :=
      (Nat.mul_assoc n _ 10).symm
    have hdiv : n * Nat.pow 10 places * 10 / 10 = n * Nat.pow 10 places :=
      Nat.mul_div_cancel _ (by decide)
    have hdigit : (n * Nat.pow 10 places * 10 % 10).digitChar = '0' := by
      rw [Nat.mul_mod_left]
      rfl
    rw [hnext, Text.ofNat, Nat.toDigits_of_base_le (by decide) (by omega), hdiv, hdigit,
      List.replicate_succ', ← List.append_assoc, ← ih]
    rfl

/-- Filled up with zeros in front, so that one digit at least stands before the places, the digits
of a number times a power of ten are the number's digits and zeros, also if the number is zero. -/
theorem padded_mul_pow (n places : Nat) :
    List.replicate (places + 1 - (Text.ofNat (n * Nat.pow 10 places)).length) '0' ++
      Text.ofNat (n * Nat.pow 10 places) = Text.ofNat n ++ List.replicate places '0' := by
  by_cases hn : n = 0
  · have hzero : Text.ofNat 0 = ['0'] := rfl
    subst hn
    rw [Nat.zero_mul, hzero, List.length_singleton, Nat.add_sub_cancel, ← List.replicate_succ',
      List.singleton_append, List.replicate_succ]
  · have hlength : 0 < (Text.ofNat n).length := Nat.length_toDigits_pos
    have hnone : places + 1 - ((Text.ofNat n).length + places) = 0 := by omega
    rw [ofNat_mul_pow hn, List.length_append, List.length_replicate, hnone, List.replicate_zero,
      List.nil_append]

theorem dropEndWhile_replicate (n : Nat) :
    Text.dropEndWhile (· = '0') (List.replicate n '0') = [] := by
  refine List.rdropWhile_eq_nil_iff.mpr fun c hc => ?_
  rw [List.eq_of_mem_replicate hc]
  rfl

/-- Without its zeros behind the point, the numeral of a whole number is that of an integer. -/
theorem fixed_of_whole {x : Binary64} (hx : x.IsWhole) (places : Nat) :
    x.fixed places = Text.ofNat x.whole := by
  have hlength : (Text.ofNat x.whole ++ List.replicate places '0').length - places =
      (Text.ofNat x.whole).length := by
    rw [List.length_append, List.length_replicate, Nat.add_sub_cancel]
  unfold fixed
  dsimp only
  rw [fixedUnits_of_whole hx, padded_mul_pow, hlength, List.take_left, List.drop_left,
    dropEndWhile_replicate]
  rfl

/-- The numeral is made of digits and a point. -/
theorem mem_fixed {x : Binary64} {places : Nat} {c : Char} (hc : c ∈ x.fixed places) :
    c.isDigit = true ∨ c = '.' := by
  have hpadded : ∀ d ∈ List.replicate (places + 1 - (Text.ofNat (x.fixedUnits places)).length) '0'
      ++ Text.ofNat (x.fixedUnits places), d.isDigit = true := by
    intro d hd
    rcases List.mem_append.mp hd with hd | hd
    · rw [List.eq_of_mem_replicate hd]
      rfl
    · exact Json.isDigit_ofNat d hd
  unfold fixed at hc
  dsimp only at hc
  generalize List.replicate _ '0' ++ Text.ofNat (x.fixedUnits places) = ds at hpadded hc
  have hfront : ∀ d ∈ ds.take (ds.length - places), d.isDigit = true :=
    fun d hd => hpadded d (List.mem_of_mem_take hd)
  have hback : ∀ d ∈ Text.dropEndWhile (· = '0') (ds.drop (ds.length - places)),
      d.isDigit = true := fun d hd =>
    hpadded d (List.mem_of_mem_drop ((List.rdropWhile_prefix _ _).subset hd))
  split at hc
  · exact .inl (hfront c hc)
  · rcases List.mem_append.mp hc with hc | hc
    · exact .inl (hfront c hc)
    · rcases List.mem_cons.mp hc with rfl | hc
      · exact .inr rfl
      · exact .inl (hback c hc)

end StyleVars.Binary64
