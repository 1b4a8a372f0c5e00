import StyleVars.Proofs.Text.Split
import StyleVars.Proofs.Variable.Names

/-
  Scraping line by line. A line feed is no unit, and no backslash makes it part of one, so a run of
  units ends with its line at the latest (`unitRun_append_break`). Hence the tokens of a text are
  those of the text up to a line feed and those of the text behind it (`tokens_append_break`), and
  since names are taken up one after the other, scraping the lines of a text leaves the names and
  the count that scraping the text does (`scrape_by_lines`).
-/

namespace StyleVars.Variable

/-! ## Characters no run of units gets past -/

/-- A character that is in no unit, neither on its own nor behind a backslash, and starts none. -/
structure IsBreak (c : Char) : Prop where
  not_plain : isPlainUnit c = false
  not_escapable : escapable.contains c = false
  ne_backslash : c ≠ '\\'

theorem isBreak_lineFeed : IsBreak '\n' := ⟨by decide, by decide, by decide⟩

variable {c : Char}

theorem IsBreak.ne_sigil (hc : IsBreak c) : c ≠ sigil := by
  rintro rfl
  have hescapable : escapable.contains sigil = true := by decide
  rw [hc.not_escapable] at hescapable
  cases hescapable

/-- A run of units ends before a break, whatever comes behind it. -/
theorem unitRun_append_break (hc : IsBreak c) (s t : Text) :
    unitRun (s ++ c :: t) = ((unitRun s).1, (unitRun s).2 ++ c :: t) := by
  fun_induction unitRun s with
  | case1 => exact unitRun_stop hc.not_plain hc.ne_backslash t
  | case2 d r hd ih =>
    rw [List.cons_append, List.cons_append, unitRun_escape hd, ih]
  | case3 d r hd =>
    rw [List.cons_append, List.cons_append, unitRun, if_neg hd]
  | case4 d r hne hd ih =>
    rw [List.cons_append, unitRun_plain hd, ih]
  | case5 d r hne hd =>
    by_cases hb : d = '\\'
    · -- A backslash that ends the text takes no break along.
      subst hb
      cases r with
      | nil =>
        have hescapable : ¬ escapable.contains c = true := by
          rw [hc.not_escapable]
          exact Bool.false_ne_true
        rw [List.cons_append, List.nil_append, unitRun, if_neg hescapable]
      | cons e u => exact absurd rfl (hne e u rfl)
    · have hplain : isPlainUnit d = false := by simpa using hd
      rw [List.cons_append, unitRun_stop hplain hb]

/-- No token reaches across a break. -/
theorem tokens_append_break (hc : IsBreak c) (s t : Text) :
    tokens (s ++ c :: t) = tokens s ++ tokens t := by
  have hrun {r us rest : Text} (h : unitRun r = (us, rest)) :
      unitRun (r ++ c :: t) = (us, rest ++ c :: t) := by
    rw [unitRun_append_break hc, h]
  induction s using tokens.induct with
  | case1 => rw [List.nil_append, tokens_cons hc.ne_sigil, tokens, List.nil_append]
  | case2 r rest _ h ih =>
    rw [List.cons_append, tokens_sigil, tokens_sigil, hrun h, h]
    exact ih
  | case3 r u us rest _ h ih =>
    rw [List.cons_append, tokens_sigil, tokens_sigil, hrun h, h]
    exact congrArg _ ih
  | case4 d r hd ih => rw [List.cons_append, tokens_cons hd, tokens_cons hd, ih]

/-! ## Lines -/

/-- The text stops where a line does. -/
def EndsLine (s : Text) : Prop := s = [] ∨ s.getLast? = some '\n'

theorem tokens_append_of_endsLine {s : Text} (hs : EndsLine s) (t : Text) :
    tokens (s ++ t) = tokens s ++ tokens t := by
  rcases hs with rfl | hs
  · rw [List.nil_append, tokens, List.nil_append]
  · obtain ⟨init, rfl⟩ := List.getLast?_eq_some_iff.mp hs
    have hinit : tokens (init ++ ['\n']) = tokens init := by
      rw [tokens_append_break isBreak_lineFeed, tokens, List.append_nil]
    rw [hinit, List.append_assoc]
    exact tokens_append_break isBreak_lineFeed init t

theorem tokens_flatten {lines : List Text} (h : ∀ line ∈ lines, EndsLine line) (rest : Text) :
    tokens (lines.flatten ++ rest) = (lines ++ [rest]).flatMap tokens := by
  induction lines with
  | nil => simp
  | cons line lines ih =>
    have hline := h line List.mem_cons_self
    have hlines := ih fun l hl => h l (List.mem_cons_of_mem line hl)
    rw [List.flatten_cons, List.append_assoc, tokens_append_of_endsLine hline, hlines]
    rfl

theorem tokens_joinWith (lines : List Text) :
    tokens (Text.joinWith ['\n'] lines) = lines.flatMap tokens := by
  unfold Text.joinWith
  induction lines with
  | nil =>
    rw [List.intercalate_nil, tokens]
    rfl
  | cons line lines ih =>
    by_cases hlines : lines = []
    · subst hlines
      rw [List.intercalate_singleton, List.flatMap_singleton]
    · rw [List.intercalate_cons_of_ne_nil hlines, List.append_assoc, List.singleton_append,
        tokens_append_break isBreak_lineFeed, ih, List.flatMap_cons]

/-! ## Scrapes one after the other -/

namespace Names

theorem insertAll_append (s : Names) (names others : List Text) :
    s.insertAll (names ++ others) =
      ((s.insertAll names).1 + ((s.insertAll names).2.insertAll others).1,
        ((s.insertAll names).2.insertAll others).2) := by
  have hstate : (s.insertAll (names ++ others)).2 = ((s.insertAll names).2.insertAll others).2 := by
    rw [insertAll_snd, insertAll_snd, insertAll_snd, List.foldl_append]
  -- Each count is by how much the names grew, so the counts add up as the sizes do.
  have hwhole := size_insertAll s (names ++ others)
  have hfirst := size_insertAll s names
  have hsecond := size_insertAll (s.insertAll names).2 others
  rw [hstate] at hwhole
  have hcount : (s.insertAll (names ++ others)).1 =
      (s.insertAll names).1 + ((s.insertAll names).2.insertAll others).1 := by omega
  exact Prod.ext hcount hstate

/-- Scrapes several texts one after the other, and counts the new names of all of them. -/
def scrapeEach (s : Names) : List Text → Nat × Names
  | [] => (0, s)
  | source :: sources =>
    let first := s.scrape source
    let rest := first.2.scrapeEach sources
    (first.1 + rest.1, rest.2)

theorem scrapeEach_eq (s : Names) (sources : List Text) :
    s.scrapeEach sources = s.insertAll (sources.flatMap tokens) := by
  induction sources generalizing s with
  | nil => rfl
  | cons source sources ih =>
    rw [List.flatMap_cons, insertAll_append, scrapeEach, ih]
    rfl

end Names

/-- A text that stops where a line does may be scraped on its own, and what follows it after that:
names, their order and the count are those of one scrape. So a text may be cut behind any of its
line feeds, or into its lines without them, and be scraped piece by piece in order. -/
theorem scrape_by_lines (s : Names) :
    (∀ a b, EndsLine a →
      s.scrape (a ++ b) =
        ((s.scrape a).1 + ((s.scrape a).2.scrape b).1, ((s.scrape a).2.scrape b).2)) ∧
    (∀ lines rest, (∀ line ∈ lines, EndsLine line) →
      s.scrape (lines.flatten ++ rest) = s.scrapeEach (lines ++ [rest])) ∧
    ∀ source, s.scrape source = s.scrapeEach (Text.splitAt '\n' source) := by
  refine ⟨?_, ?_, ?_⟩
  · intro a b ha
    show s.insertAll (tokens (a ++ b)) = _
    rw [tokens_append_of_endsLine ha, Names.insertAll_append]
    rfl
  · intro lines rest hlines
    show s.insertAll (tokens (lines.flatten ++ rest)) = _
    rw [tokens_flatten hlines, Names.scrapeEach_eq]
  · intro source
    have hjoin : Text.joinWith ['\n'] (Text.splitAt '\n' source) = source :=
      List.intercalate_splitOn '\n'
    have htokens : tokens source = (Text.splitAt '\n' source).flatMap tokens := by
      rw [← tokens_joinWith, hjoin]
    show s.insertAll (tokens source) = _
    rw [htokens, Names.scrapeEach_eq]

/-- A backslash at the end of a line does not take along what the next line starts with. -/
theorem scrape_by_lines_backslash :
    EndsLine "$a\\\n".toList ∧
      Names.empty.scrape ("$a\\\n".toList ++ ":b $c $a".toList) =
        ((Names.empty.scrape "$a\\\n".toList).1 +
            ((Names.empty.scrape "$a\\\n".toList).2.scrape ":b $c $a".toList).1,
          ((Names.empty.scrape "$a\\\n".toList).2.scrape ":b $c $a".toList).2) := by
  have hline : EndsLine "$a\\\n".toList := .inr (by decide)
  exact ⟨hline, (scrape_by_lines Names.empty).1 _ _ hline⟩

end StyleVars.Variable
