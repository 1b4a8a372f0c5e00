import StyleVars.Path.Reference
import StyleVars.Proofs.Path.Directory
import StyleVars.Proofs.Text.Affix

/-
  Names behind probe paths. A compiler looks for an import under file names with or without the
  partial mark and the import-only mark; each of them leads back to the import's name, unless that
  name itself starts or ends with a mark that is not there (`importReference?_eq_some_iff`).
-/

namespace StyleVars.Path

/-! ## Extensions -/

/-- What follows the last dot of a name is its extension, if something is before the dot. -/
theorem extension?_of_fileName {p : Path} {stem extension : Text}
    (h : p.fileName? = some (stem ++ '.' :: extension)) (hstem : stem ≠ [])
    (hdot : '.' ∉ extension) : p.extension? = some extension := by
  have hbefore : ∀ c ∈ extension.reverse, decide (c ≠ '.') = true := by
    intro c hc
    refine decide_eq_true ?_
    rintro rfl
    exact hdot (List.mem_reverse.mp hc)
  have hreverse : (stem ++ '.' :: extension).reverse = extension.reverse ++ '.' :: stem.reverse := by
    simp
  have hsplit : Text.splitLast? '.' (stem ++ '.' :: extension) = some (stem, extension) := by
    unfold Text.splitLast?
    rw [hreverse, List.dropWhile_append_of_pos hbefore, List.takeWhile_append_of_pos hbefore]
    simp
  obtain ⟨c, stem, rfl⟩ := List.exists_cons_of_ne_nil hstem
  unfold extension? splitExtension
  rw [h, Option.bind_some, hsplit]

/-- A name has an extension exactly if a dot stands in it behind its first character. -/
theorem extension?_eq_none {p : Path} {n : Text} (h : p.fileName? = some n) :
    p.extension? = none ↔ '.' ∉ n.tail := by
  obtain ⟨c, t, rfl⟩ := List.exists_cons_of_ne_nil (isName_of_fileName? h).1
  rw [List.tail_cons]
  constructor
  · intro hnone hdot
    obtain ⟨after, before, hsplit, hlast⟩ :=
      List.eq_append_cons_of_mem (List.mem_reverse.mpr hdot)
    have ht : t = before.reverse ++ '.' :: after.reverse := by
      rw [← List.reverse_reverse t, hsplit]
      simp
    rw [ht, ← List.cons_append] at h
    have hsome := extension?_of_fileName h (List.cons_ne_nil _ _) (by simpa using hlast)
    rw [hnone] at hsome
    cases hsome
  · intro hdot
    have hbehind : ∀ d ∈ t.reverse, decide (d ≠ '.') = true := by
      intro d hd
      refine decide_eq_true ?_
      rintro rfl
      exact hdot (List.mem_reverse.mp hd)
    have hextension : (splitExtension (c :: t)).2 = none := by
      unfold splitExtension Text.splitLast?
      rw [List.reverse_cons, List.dropWhile_append_of_pos hbehind]
      by_cases hc : c = '.'
      · -- the only dot comes first
        subst hc
        rfl
      · rw [List.dropWhile_cons_of_pos (by simpa using hc)]
        rfl
    unfold extension?
    rw [h, Option.bind_some, hextension]

/-- No stylesheet extension ends with another one. -/
theorem eq_of_suffix_stylesheetExtensions :
    ∀ x ∈ stylesheetExtensions, ∀ y ∈ stylesheetExtensions, x <:+ y → x = y := by
  decide

/-- So the one that is there is taken off. -/
theorem findSome?_stripSuffix? {e : Text} (he : e ∈ stylesheetExtensions) (t : Text) :
    (stylesheetExtensions.findSome? fun x => Text.stripSuffix? x (t ++ e)) = some t := by
  obtain ⟨before, after, hsplit, hbefore⟩ := List.eq_append_cons_of_mem he
  rw [List.findSome?_eq_some_iff]
  refine ⟨before, e, after, hsplit, Text.stripSuffix?_append t e, fun x hx => ?_⟩
  have hmem : x ∈ stylesheetExtensions := by
    rw [hsplit]
    exact List.mem_append_left _ hx
  have hne : x ≠ e := by
    rintro rfl
    exact hbefore hx
  rw [Text.stripSuffix?_eq_none]
  intro hsuffix
  rcases List.suffix_or_suffix_of_suffix hsuffix (List.suffix_append t e) with h | h
  · exact hne (eq_of_suffix_stylesheetExtensions x hmem e he h)
  · exact hne (eq_of_suffix_stylesheetExtensions e he x hmem h).symm

/-! ## Marks -/

/-- A mark that may stand in front of a name: the partial mark, or none if the name does not start
with it. -/
def IsLead (lead n : Text) : Prop :=
  lead = partialMark ∨ lead = [] ∧ ¬ partialMark <+: n

/-- A mark that may stand behind a name: the import-only mark, or none if the name does not end
with it. -/
def IsTail (tail n : Text) : Prop :=
  tail = importOnlyMark ∨ tail = [] ∧ ¬ importOnlyMark <:+ n

theorem isLead_nil {n : Text} : IsLead [] n ↔ ¬ partialMark <+: n := by
  simp [IsLead, partialMark]

theorem isTail_nil {n : Text} : IsTail [] n ↔ ¬ importOnlyMark <:+ n := by
  have hmark : [] ≠ importOnlyMark := by decide
  simp [IsTail, hmark]

/-- A text without the partial mark in front, if it starts with one. -/
def withoutLead (t : Text) : Text := (Text.stripPrefix? partialMark t).getD t

/-- A text without the import-only mark behind, if it ends with one. -/
def withoutTail (t : Text) : Text := (Text.stripSuffix? importOnlyMark t).getD t

theorem withoutLead_mark (t : Text) : withoutLead (partialMark ++ t) = t := by
  unfold withoutLead
  rw [Text.stripPrefix?_append]
  rfl

theorem withoutLead_eq_self {t : Text} (h : ¬ partialMark <+: t) : withoutLead t = t := by
  unfold withoutLead
  rw [Text.stripPrefix?_eq_none.mpr h]
  rfl

theorem withoutTail_mark (t : Text) : withoutTail (t ++ importOnlyMark) = t := by
  unfold withoutTail
  rw [Text.stripSuffix?_append]
  rfl

theorem withoutTail_eq_self {t : Text} (h : ¬ importOnlyMark <:+ t) :
    withoutTail t = t := by
  unfold withoutTail
  rw [Text.stripSuffix?_eq_none.mpr h]
  rfl

theorem length_withoutLead_le (t : Text) : (withoutLead t).length ≤ t.length := by
  by_cases h : partialMark <+: t
  · obtain ⟨s, rfl⟩ := h
    rw [withoutLead_mark, List.length_append]
    omega
  · rw [withoutLead_eq_self h]

section Spelling

variable {lead n tail : Text}

/-- A name without the mark that is in front of it is the name, unless it starts with one itself. -/
theorem withoutLead_eq_iff (hlead : lead = partialMark ∨ lead = []) :
    withoutLead (lead ++ n) = n ↔ IsLead lead n := by
  rcases hlead with rfl | rfl
  · exact iff_of_true (withoutLead_mark n) (.inl rfl)
  rw [isLead_nil, List.nil_append]
  constructor
  · rintro h ⟨m, rfl⟩
    rw [withoutLead_mark] at h
    have hlength := congrArg List.length h
    simp [partialMark] at hlength
  · exact withoutLead_eq_self

/-- The partial mark in front of a name is no part of an import-only mark behind it. -/
theorem withoutTail_of_isTail (hlead : lead = partialMark ∨ lead = []) (h : IsTail tail n) :
    withoutTail (lead ++ n ++ tail) = lead ++ n := by
  rcases h with rfl | ⟨rfl, hn⟩
  · exact withoutTail_mark _
  rw [List.append_nil]
  refine withoutTail_eq_self ?_
  rcases hlead with rfl | rfl
  · intro hsuffix
    rcases List.suffix_cons_iff.mp hsuffix with he | he
    · cases (List.cons.inj he).1
    · exact hn he
  · exact hn

/-- Without marks a spelling of a name is the name exactly if every mark that is taken off stands
beside the name and not in it. -/
theorem withoutMarks_eq_iff (hlead : lead = partialMark ∨ lead = [])
    (htail : tail = importOnlyMark ∨ tail = []) :
    withoutLead (withoutTail (lead ++ n ++ tail)) = n ↔ IsLead lead n ∧ IsTail tail n := by
  by_cases h : IsTail tail n
  · rw [withoutTail_of_isTail hlead h, withoutLead_eq_iff hlead, and_iff_left h]
  · refine iff_of_false (fun heq => ?_) fun hboth => h hboth.2
    obtain rfl : tail = [] := htail.resolve_left fun hmark => h (.inl hmark)
    rw [isTail_nil, not_not] at h
    obtain ⟨m, rfl⟩ := h
    -- The mark at the end of the name goes, and the partial mark is too short to make up for it.
    rw [List.append_nil, ← List.append_assoc, withoutTail_mark] at heq
    have hshort : lead.length ≤ 1 := by rcases hlead with rfl | rfl <;> decide
    have hmark : importOnlyMark.length = 7 := rfl
    have hlength := length_withoutLead_le (lead ++ m)
    rw [heq, List.length_append, List.length_append, hmark] at hlength
    omega

variable {p : Path} {e : Text}

/-- A probe path leads back to the import's name exactly if each mark stands beside the name and
the name itself neither starts nor ends with one that is missing there. -/
theorem importReference?_eq_some_iff (h : p.fileName? = some (lead ++ n ++ tail ++ e))
    (hlead : lead = partialMark ∨ lead = []) (htail : tail = importOnlyMark ∨ tail = [])
    (he : e ∈ stylesheetExtensions) (hn : n ≠ []) :
    p.importReference? = some n ↔ IsLead lead n ∧ IsTail tail n := by
  have hreference : p.importReference? =
      let stem := withoutLead (withoutTail (lead ++ n ++ tail))
      if stem.isEmpty then none else some stem := by
    unfold importReference?
    rw [h, Option.bind_some]
    dsimp only
    rw [findSome?_stripSuffix? he, Option.getD_some]
    rfl
  rw [hreference, ← withoutMarks_eq_iff hlead htail]
  dsimp only
  split
  next hempty =>
    rw [List.isEmpty_iff.mp hempty]
    exact iff_of_false (Option.some_ne_none n).symm hn.symm
  next => exact Option.some_inj

/-- So it does if the marks that are missing are none of the name's. -/
theorem importReference?_of_fileName (h : p.fileName? = some (lead ++ n ++ tail ++ e))
    (hlead : IsLead lead n) (htail : IsTail tail n) (he : e ∈ stylesheetExtensions)
    (hn : n ≠ []) : p.importReference? = some n :=
  (importReference?_eq_some_iff h (hlead.imp_right And.left) (htail.imp_right And.left) he hn).mpr
    ⟨hlead, htail⟩

end Spelling

/-- The import name is a matter of a path's components. -/
theorem importReference?_congr {p q : Path} (h : p.same q = true) :
    p.importReference? = q.importReference? := by
  unfold importReference?
  rw [fileName?_congr h]

end StyleVars.Path
