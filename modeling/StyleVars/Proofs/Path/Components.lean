import Mathlib.Data.List.DropRight
import StyleVars.Path.Basic
import StyleVars.Proofs.Text.Split

/-
  Absolute paths taken apart. Such a path is the root and the pieces of the text behind the first
  separator (`components_absolute`), and it ends with the name that the last piece is
  (`fileName?_absolute`). A name stays one when more characters come in front of it or behind it
  (`IsName.extend`). Pieces that are spelling only name nothing, and a relative path that is joined
  to an absolute one is more pieces (`join_of_getLast?_ne`).
-/

namespace StyleVars.Path

/-! ## Names -/

/-- A segment that is a name: neither spelling only nor `..`. -/
def IsName (segment : Text) : Prop :=
  segment ≠ [] ∧ segment ≠ ['.'] ∧ segment ≠ ['.', '.'] ∧ '/' ∉ segment

instance (segment : Text) : Decidable (IsName segment) := inferInstanceAs (Decidable (_ ∧ _))

theorem isName_of_not_isVoid {n : Text} (hvoid : ¬ isVoid n = true) (hup : n ≠ ['.', '.'])
    (hslash : '/' ∉ n) : IsName n := by
  have hne : n ≠ [] ∧ n ≠ ['.'] := by simpa [isVoid] using hvoid
  exact ⟨hne.1, hne.2, hup, hslash⟩

theorem IsName.isVoid_eq {n : Text} (h : IsName n) : isVoid n = false := by
  simp [isVoid, h.1, h.2.1]

theorem IsName.component?_eq {n : Text} (h : IsName n) : component? n = some (.name n) := by
  unfold component?
  rw [h.isVoid_eq, if_neg Bool.false_ne_true, if_neg h.2.2.1]

theorem IsName.isAbsolute_eq {n : Text} (h : IsName n) : (Path.mk n).isAbsolute = false := by
  have hhead : n.head? ≠ some '/' := fun hn => h.2.2.2 (List.mem_of_mem_head? hn)
  simp [isAbsolute, hhead]

/-- A name is one piece. -/
theorem IsName.splitAt_eq {n : Text} (h : IsName n) : Text.splitAt '/' n = [n] :=
  List.splitOn_eq_singleton h.2.2.2

/-- A segment that a name is part of is a name too. -/
theorem IsName.extend {n s : Text} (hn : IsName n) (h : n <:+: s) (hs : '/' ∉ s) : IsName s := by
  obtain ⟨hempty, hdot, hup, -⟩ := hn
  -- The parts of `..` are runs of dots, and no name is one.
  have hdots : ¬ n <:+: ['.', '.'] := by
    intro hpart
    obtain ⟨k, hk, rfl⟩ : ∃ k, k ≤ 2 ∧ n = List.replicate k '.' :=
      List.sublist_replicate_iff.mp hpart.sublist
    match k, hk with
    | 0, _ => exact hempty rfl
    | 1, _ => exact hdot rfl
    | 2, _ => exact hup rfl
  refine ⟨?_, ?_, ?_, hs⟩
  · rintro rfl
    exact hempty (List.infix_nil.mp h)
  · rintro rfl
    exact hdots (h.trans (List.suffix_cons '.' ['.']).isInfix)
  · rintro rfl
    exact hdots h

theorem IsName.append {n e : Text} (hn : IsName n) (he : '/' ∉ e) : IsName (n ++ e) :=
  hn.extend (List.prefix_append n e).isInfix (by simp [hn.2.2.2, he])

theorem IsName.prepend {n e : Text} (hn : IsName n) (he : '/' ∉ e) : IsName (e ++ n) :=
  hn.extend (List.suffix_append e n).isInfix (by simp [hn.2.2.2, he])

/-! ## Segments and starts -/

theorem component?_of_isVoid {s : Text} (h : isVoid s = true) : component? s = none := if_pos h

theorem isAbsolute_iff {p : Path} : p.isAbsolute = true ↔ ∃ t, p = ⟨'/' :: t⟩ := by
  obtain ⟨t⟩ := p
  unfold isAbsolute
  cases t with
  | nil => simp
  | cons c t => simp

/-! ## Parts -/

theorem parts_absolute (t : Text) : parts ⟨'/' :: t⟩ = ⟨.root, Text.splitAt '/' t⟩ := by
  unfold parts
  rw [Text.splitAt_sep]
  obtain ⟨s, ss, h⟩ := Text.splitAt_eq_cons '/' t
  rw [h]

theorem components_absolute (t : Text) :
    components ⟨'/' :: t⟩ = .root :: (Text.splitAt '/' t).filterMap component? := by
  unfold components
  rw [parts_absolute]
  rfl

theorem components_name {n : Text} (h : IsName n) : components ⟨n⟩ = [.name n] := by
  unfold components parts
  rw [h.splitAt_eq]
  split
  · next he => cases he
  · next he => exact absurd (List.cons.inj he).1 h.2.1
  · simp [Start.components, h.component?_eq]

theorem fileName?_name {n : Text} (h : IsName n) : fileName? ⟨n⟩ = some n := by
  unfold fileName?
  rw [components_name h]
  rfl

theorem fileName?_absolute {t n : Text} {before : List Text}
    (ht : Text.splitAt '/' t = before ++ [n]) (hn : IsName n) : fileName? ⟨'/' :: t⟩ = some n := by
  unfold fileName?
  rw [components_absolute, ht, List.filterMap_append, List.filterMap_cons, hn.component?_eq,
    ← List.cons_append, List.filterMap_nil, List.getLast?_concat]

/-! ## Pieces at the end, and joining -/

/-- Pieces at the end that are spelling only do not count. -/
theorem filterMap_dropEndWhile (ss : List Text) :
    (Text.dropEndWhile isVoid ss).filterMap component? = ss.filterMap component? := by
  have hsplit : Text.dropEndWhile isVoid ss ++ ss.rtakeWhile isVoid = ss :=
    List.rdropWhile_append_rtakeWhile
  have hvoid : (ss.rtakeWhile isVoid).filterMap component? = [] := by
    rw [List.filterMap_eq_nil_iff]
    exact fun s hs => component?_of_isVoid (List.mem_rtakeWhile_imp hs)
  calc (Text.dropEndWhile isVoid ss).filterMap component?
      = (Text.dropEndWhile isVoid ss ++ ss.rtakeWhile isVoid).filterMap component? := by
        rw [List.filterMap_append, hvoid, List.append_nil]
    _ = ss.filterMap component? := by rw [hsplit]

theorem dropEndWhile_concat {n : Text} (hn : IsName n) (before : List Text) :
    Text.dropEndWhile isVoid (before ++ [n]) = before ++ [n] :=
  List.rdropWhile_concat_neg isVoid before n (by simp [hn.isVoid_eq])

/-- What remains when the pieces at the end that are spelling only are dropped ends with another
piece, if there is one. -/
theorem dropEndWhile_cases (ss : List Text) :
    Text.dropEndWhile isVoid ss = [] ∨
      ∃ before s, Text.dropEndWhile isVoid ss = before ++ [s] ∧ isVoid s = false ∧ s ∈ ss := by
  by_cases h : Text.dropEndWhile isVoid ss = []
  · exact .inl h
  · refine .inr ⟨_, _, (List.dropLast_concat_getLast h).symm, ?_, ?_⟩
    · exact Bool.eq_false_iff.mpr (List.rdropWhile_last_not isVoid ss h)
    · exact (List.rdropWhile_prefix isVoid ss).mem (List.getLast_mem h)

/-- A path whose last piece is not empty does not end with a separator. -/
theorem getLast?_ne_separator (before : List Text) {s : Text} (hne : s ≠ []) (hs : '/' ∉ s) :
    ('/' :: Text.joinWith ['/'] (before ++ [s])).getLast? ≠ some '/' := by
  obtain ⟨c, hc⟩ := Option.ne_none_iff_exists'.mp (mt List.getLast?_eq_none_iff.mp hne)
  have hsingle : Text.joinWith ['/'] [s] = s := List.intercalate_singleton
  have hlast : (Text.joinWith ['/'] (before ++ [s])).getLast? = some c := by
    cases before with
    | nil => rw [List.nil_append, hsingle, hc]
    | cons u us =>
      rw [Text.joinWith_append (List.cons_ne_nil u us) (List.cons_ne_nil s []), hsingle,
        List.getLast?_append, hc]
      rfl
  rw [List.getLast?_cons, hlast]
  intro he
  obtain rfl := Option.some.inj he
  exact hs (List.mem_of_getLast? hc)

theorem join_of_getLast?_ne {t m : Text} (ht : ('/' :: t).getLast? ≠ some '/')
    (hm : (Path.mk m).isAbsolute = false) :
    (Path.mk ('/' :: t)).join ⟨m⟩ = ⟨'/' :: (t ++ '/' :: m)⟩ := by
  unfold join
  rw [if_neg (by simp [hm]), if_neg (by simp [ht])]
  rfl

theorem join_root {m : Text} (hm : (Path.mk m).isAbsolute = false) :
    (Path.mk ['/']).join ⟨m⟩ = ⟨'/' :: m⟩ := by
  unfold join
  rw [if_neg (by simp [hm])]
  rfl

end StyleVars.Path
