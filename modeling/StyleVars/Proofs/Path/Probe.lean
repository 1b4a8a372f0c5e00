import StyleVars.Proofs.Marker.Declaration
import StyleVars.Proofs.Path.Reference

/-
  The spellings of an import in a directory. A compiler looks for a name there with or without the
  partial mark, with or without the import-only mark, and with each stylesheet extension. A name
  that is spelled with both marks is recovered whatever it is; where a mark is missing, it is
  recovered exactly if it does not have that mark itself (`importReference?_spelled`). A session
  token has none of them, so it is recovered from every spelling.
-/

namespace StyleVars.Path

/-! ## File names -/

/-- Every stylesheet extension is too long to make a dot segment, and holds no separator. -/
theorem stylesheetExtensions_spec :
    ∀ e ∈ stylesheetExtensions, 3 ≤ e.length ∧ '/' ∉ e := by
  decide

/-- A text with a stylesheet extension is a file name, unless it holds a separator. -/
theorem isName_stylesheet {t e : Text} (ht : '/' ∉ t) (he : e ∈ stylesheetExtensions) :
    IsName (t ++ e) := by
  obtain ⟨hlength, hslash⟩ := stylesheetExtensions_spec e he
  have hne {s : Text} (hs : s.length < 3) : t ++ e ≠ s := by
    rintro rfl
    rw [List.length_append] at hs
    omega
  refine ⟨hne (by decide), hne (by decide), hne (by decide), ?_⟩
  rw [List.mem_append, not_or]
  exact ⟨ht, hslash⟩

/-- Marks hold no separator. -/
theorem notMem_spelling {lead n tail : Text} (hlead : lead = partialMark ∨ lead = [])
    (htail : tail = importOnlyMark ∨ tail = []) (hn : '/' ∉ n) : '/' ∉ lead ++ n ++ tail := by
  have hlead' : '/' ∉ lead := by rcases hlead with rfl | rfl <;> decide
  have htail' : '/' ∉ tail := by rcases htail with rfl | rfl <;> decide
  simp [hlead', hn, htail']

/-- A name that fits into a file name and has none of the marks at its ends. -/
structure IsUnmarked (n : Text) : Prop where
  ne_nil : n ≠ []
  notMem_separator : '/' ∉ n
  no_lead : ¬ partialMark <+: n
  no_tail : ¬ importOnlyMark <:+ n

theorem isUnmarked_of_isSessionToken {token : Text} (h : isSessionToken token = true) :
    IsUnmarked token where
  ne_nil := by
    rintro rfl
    cases h
  notMem_separator := Marker.notMem_of_isSessionToken h (by decide) (by decide)
  no_lead hlead := Marker.notMem_of_isSessionToken (c := '_') h (by decide) (by decide)
    (hlead.subset List.mem_cons_self)
  no_tail htail := Marker.notMem_of_isSessionToken (c := '.') h (by decide) (by decide)
    (htail.subset List.mem_cons_self)

/-! ## Recovering the name -/

/-- A path that spells a name in a directory leads back to the name exactly if no mark that is
missing in front of the name or behind it is part of it. -/
theorem importReference?_of_same_join {d p : Path} (lead tail : Text) {n e : Text}
    (hlead : lead = partialMark ∨ lead = []) (htail : tail = importOnlyMark ∨ tail = [])
    (he : e ∈ stylesheetExtensions) (hn : n ≠ []) (hslash : '/' ∉ n)
    (hp : p.same (d.join ⟨lead ++ n ++ tail ++ e⟩) = true) :
    p.importReference? = some n ↔ IsLead lead n ∧ IsTail tail n := by
  have hname : IsName (lead ++ n ++ tail ++ e) :=
    isName_stylesheet (notMem_spelling hlead htail hslash) he
  exact importReference?_eq_some_iff (of_same_join hname hp).1 hlead htail he hn

/-- A name in a directory, whatever it is: spelled with both marks it is recovered; spelled without
the partial mark it is recovered exactly if it does not start with that mark, without the
import-only mark exactly if it does not end with that, and without either exactly if both hold. A
session token is recovered from each of its spellings. -/
theorem importReference?_spelled (d : Path) {e : Text} (he : e ∈ stylesheetExtensions) :
    (∀ n, n ≠ [] → '/' ∉ n → ∀ p : Path,
      (p.same (d.join ⟨partialMark ++ n ++ importOnlyMark ++ e⟩) = true →
        p.importReference? = some n) ∧
      (p.same (d.join ⟨n ++ importOnlyMark ++ e⟩) = true →
        (p.importReference? = some n ↔ ¬ partialMark <+: n)) ∧
      (p.same (d.join ⟨partialMark ++ n ++ e⟩) = true →
        (p.importReference? = some n ↔ ¬ importOnlyMark <:+ n)) ∧
      (p.same (d.join ⟨n ++ e⟩) = true →
        (p.importReference? = some n ↔ ¬ partialMark <+: n ∧ ¬ importOnlyMark <:+ n))) ∧
    ∀ token, isSessionToken token = true → ∀ lead ∈ [partialMark, []],
      ∀ tail ∈ [importOnlyMark, []], ∀ p : Path,
        p.same (d.join ⟨lead ++ token ++ tail ++ e⟩) = true →
          p.importReference? = some token := by
  have hmark (n : Text) : IsLead partialMark n := .inl rfl
  have honly (n : Text) : IsTail importOnlyMark n := .inl rfl
  constructor
  · intro n hn hslash p
    refine ⟨fun hp => ?_, fun hp => ?_, fun hp => ?_, fun hp => ?_⟩
    · rw [importReference?_of_same_join _ _ (.inl rfl) (.inl rfl) he hn hslash hp]
      exact ⟨hmark n, honly n⟩
    · rw [importReference?_of_same_join [] _ (.inr rfl) (.inl rfl) he hn hslash hp,
        isLead_nil, and_iff_left (honly n)]
    · rw [importReference?_of_same_join _ [] (.inl rfl) (.inr rfl) he hn hslash
        (by rwa [List.append_nil]), isTail_nil, and_iff_right (hmark n)]
    · rw [importReference?_of_same_join [] [] (.inr rfl) (.inr rfl) he hn hslash
        (by rwa [List.append_nil]), isLead_nil, isTail_nil]
  · intro token ht lead hlead tail htail p hp
    obtain ⟨hne, hslash, hnoLead, hnoTail⟩ := isUnmarked_of_isSessionToken ht
    have hlead' : lead = partialMark ∨ lead = [] := by simpa using hlead
    have htail' : tail = importOnlyMark ∨ tail = [] := by simpa using htail
    rw [importReference?_of_same_join lead tail hlead' htail' he hne hslash hp]
    exact ⟨hlead'.imp_right fun hnil => ⟨hnil, hnoLead⟩,
      htail'.imp_right fun hnil => ⟨hnil, hnoTail⟩⟩

/-- A name that starts and ends with a mark and has an extension in it: only the spelling with both
marks leads back to it. A token is recovered without any. -/
theorem importReference?_spelled_marked :
    let d := Path.ofString "styles/"
    let n := "_grid.scss.import".toList
    let e := ".css".toList
    let token := Marker.someToken
    e ∈ stylesheetExtensions ∧ n ≠ [] ∧ '/' ∉ n ∧ isSessionToken token = true ∧
      (d.join ⟨partialMark ++ n ++ importOnlyMark ++ e⟩).importReference? = some n ∧
      (d.join ⟨n ++ importOnlyMark ++ e⟩).importReference? ≠ some n ∧
      (d.join ⟨partialMark ++ n ++ e⟩).importReference? ≠ some n ∧
      (d.join ⟨n ++ e⟩).importReference? ≠ some n ∧
      (Path.ofString "styles//./sass-vars-0123456789abcdef0123456789abcdef.css").importReference? =
        some token := by
  intro d n e token
  have he : e ∈ stylesheetExtensions := by decide
  have hne : n ≠ [] := by decide
  have hslash : '/' ∉ n := by decide
  have ht : isSessionToken token = true := by decide
  have hstarts : partialMark <+: n := by decide
  have hends : importOnlyMark <:+ n := by decide
  have h := importReference?_spelled d he
  have hboth := (h.1 n hne hslash _).1 (same_refl _)
  have htail := (h.1 n hne hslash _).2.1 (same_refl _)
  have hlead := (h.1 n hne hslash _).2.2.1 (same_refl _)
  have hneither := (h.1 n hne hslash _).2.2.2 (same_refl _)
  refine ⟨he, hne, hslash, ht, hboth, fun hn => htail.mp hn hstarts, fun hn => hlead.mp hn hends,
    fun hn => (hneither.mp hn).1 hstarts, ?_⟩
  exact h.2 token ht [] (by decide) [] (by decide) _ (by decide)

end StyleVars.Path
