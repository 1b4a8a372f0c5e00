import StyleVars.Text.UpperCase

/-
  Upper case and the characters below the letters. The tables lead to capital letters and to
  characters above ASCII only, so upper case brings in no sign, no digit and no control character:
  what stands below `A` in a text's upper case stood in the text (`mem_upperCase`).
-/

namespace StyleVars.Text

/-- A run of the table leads to characters, none of them below `A`. -/
theorem upperRuns_range : ∀ r ∈ upperRuns,
    'A'.toNat ≤ r.first + r.distance ∧
      (r.last + r.distance < 0xD800 ∨
        0xDFFF < r.first + r.distance ∧ r.last + r.distance < 0x110000) := by
  decide +kernel

theorem upperExpansions_range : ∀ e ∈ upperExpansions, ∀ n ∈ e.2,
    'A'.toNat ≤ (Char.ofNat n).toNat := by
  decide +kernel

theorem toUpper_ASCII : ∀ n < 0x80,
    (Char.ofNat n).toUpper = Char.ofNat n ∨ 'A'.toNat ≤ (Char.ofNat n).toUpper.toNat := by
  decide +kernel

theorem le_toNat_upperRun {r : CaseRun} (hr : r ∈ upperRuns) {n : Nat} (hn : r.has n = true) :
    'A'.toNat ≤ (Char.ofNat (n + r.distance).toNat).toNat := by
  obtain ⟨hlow, hvalid⟩ := upperRuns_range r hr
  have hrange : r.first ≤ n ∧ n ≤ r.last := by
    simp only [CaseRun.has, Bool.and_eq_true, decide_eq_true_eq] at hn
    exact hn.1
  have hscalar : ((n : Int) + r.distance).toNat.isValidChar := by
    unfold Nat.isValidChar
    omega
  have hnumber : (Char.ofNat (n + r.distance).toNat).toNat = ((n : Int) + r.distance).toNat := by
    rw [Char.ofNat, dif_pos hscalar]
    rfl
  rw [hnumber]
  omega

/-- The upper case of a character is the character itself, or letters. -/
theorem mem_upperChar {c d : Char} (h : d ∈ upperChar c) : d = c ∨ 'A'.toNat ≤ d.toNat := by
  unfold upperChar at h
  split at h
  next hascii =>
    obtain rfl := List.mem_singleton.mp h
    simpa only [Char.ofNat_toNat] using toUpper_ASCII c.toNat hascii
  split at h
  next ns hns =>
    obtain ⟨n, hn, rfl⟩ := List.mem_map.mp h
    obtain ⟨before, after, hentry, -⟩ := List.lookup_eq_some_iff.mp hns
    have hmem : (c.toNat, ns) ∈ upperExpansions := by
      rw [hentry]
      exact List.mem_append_right before List.mem_cons_self
    exact .inr (upperExpansions_range _ hmem n hn)
  split at h
  next r hr =>
    obtain rfl := List.mem_singleton.mp h
    have hhas : r.has c.toNat = true := by simpa using List.find?_some hr
    exact .inr (le_toNat_upperRun (List.mem_of_find?_eq_some hr) hhas)
  next => exact .inl (List.mem_singleton.mp h)

theorem mem_upperCase {t : Text} {d : Char} (h : d ∈ upperCase t) :
    d ∈ t ∨ 'A'.toNat ≤ d.toNat := by
  obtain ⟨c, hc, hd⟩ := List.mem_flatMap.mp h
  rcases mem_upperChar hd with rfl | hletter
  · exact .inl hc
  · exact .inr hletter

end StyleVars.Text
