import Mathlib.Data.List.Basic
import StyleVars.Text.Basic
import StyleVars.Text.WhiteSpace

/-
  Prefixes and suffixes taken off a text and leading runs dropped from it: what `stripPrefix?`,
  `stripSuffix?` and `dropWhiteSpace` return, said with `++`, `<+:` and `<:+`, so that no proof
  about a reader has to look into them again.
-/

namespace StyleVars.Text

theorem stripPrefix?_eq_some {p t r : Text} : stripPrefix? p t = some r ↔ t = p ++ r :=
  List.isPrefixOf?_eq_some_iff_append_eq.trans eq_comm

theorem stripPrefix?_append (p t : Text) : stripPrefix? p (p ++ t) = some t :=
  stripPrefix?_eq_some.mpr rfl

theorem stripPrefix?_eq_none {p t : Text} : stripPrefix? p t = none ↔ ¬ p <+: t := by
  unfold stripPrefix?
  rw [← Option.not_isSome_iff_eq_none, List.isSome_isPrefixOf?_eq_isPrefixOf,
    List.isPrefixOf_iff_prefix]

theorem stripSuffix?_eq_some {s t r : Text} : stripSuffix? s t = some r ↔ t = r ++ s :=
  List.isSuffixOf?_eq_some_iff_append_eq.trans eq_comm

theorem stripSuffix?_append (r s : Text) : stripSuffix? s (r ++ s) = some r :=
  stripSuffix?_eq_some.mpr rfl

theorem stripSuffix?_eq_none {s t : Text} : stripSuffix? s t = none ↔ ¬ s <:+ t := by
  unfold stripSuffix?
  rw [← Option.not_isSome_iff_eq_none, List.isSome_isSuffixOf?_eq_isSuffixOf,
    List.isSuffixOf_iff_suffix]

/-- White space in front of a text that does not start with any is dropped, and nothing else. -/
theorem dropWhiteSpace_append {w t : Text} (hw : ∀ c ∈ w, isWhiteSpace c = true)
    (ht : ∀ c ∈ t.head?, isWhiteSpace c = false) : dropWhiteSpace (w ++ t) = t := by
  unfold dropWhiteSpace
  rw [List.dropWhile_append_of_pos hw]
  cases t with
  | nil => rfl
  | cons c t => rw [List.dropWhile_cons_of_neg (by simp [ht c rfl])]

end StyleVars.Text
