import Mathlib.Data.Finset.Card
import Mathlib.Data.List.Pairwise
import Mathlib.Logic.Pairwise
import StyleVars.Proofs.Variable.Names

/-
  Where the tokens of a text stand. `Tokenizes` says what the spans of all tokens are without a
  word about how they are found: each is a token, none can be longer, no two overlap, and no sigil
  with a unit behind it is left out. Only one set of spans is like that (`Tokenizes.mem_iff`: by
  induction on the first position, since the span that covers the start of another one can only be
  that span), and the scan finds it (`exists_scanned`), so the names and the count it leaves are
  those of these spans (`scrape_spans`).
-/

namespace StyleVars.Variable

/-! ## Units -/

/-- A unit starts at this position, and perhaps more units behind it. -/
def UnitAt (s : Text) (i : Nat) : Prop := ∃ us, us ≠ [] ∧ Units us ∧ us <+: s.drop i

/-- A run of units is taken whole, and whatever units follow it. -/
theorem unitRun_append_of_units {us : Text} (h : Units us) (rest : Text) :
    unitRun (us ++ rest) = (us ++ (unitRun rest).1, (unitRun rest).2) := by
  induction h with
  | nil => rfl
  | plain hc _ ih => rw [List.cons_append, unitRun_plain hc, ih, List.cons_append]
  | escape hc _ ih =>
    rw [List.cons_append, List.cons_append, unitRun_escape hc, ih, List.cons_append,
      List.cons_append]

theorem unitAt_iff {s : Text} {i : Nat} : UnitAt s i ↔ (unitRun (s.drop i)).1 ≠ [] := by
  constructor
  · rintro ⟨us, hne, hu, rest, hrest⟩ hrun
    rw [← hrest, unitRun_append_of_units hu] at hrun
    exact hne (List.append_eq_nil_iff.mp hrun).1
  · intro h
    exact ⟨_, h, units_unitRun _, _, unitRun_append _⟩

/-- A sigil among units is escaped. -/
theorem Units.escaped_sigil {us : Text} (h : Units us) {j : Nat} (hj : us[j]? = some sigil) :
    ∃ before after, Units before ∧ Units after ∧ us = before ++ '\\' :: sigil :: after ∧
      j = before.length + 1 := by
  induction h generalizing j with
  | nil => cases hj
  | @plain c r hc hr ih =>
    cases j with
    | zero =>
      obtain rfl := Option.some.inj hj
      exact absurd hc (by decide)
    | succ j =>
      obtain ⟨before, after, hb, ha, rfl, rfl⟩ := ih hj
      exact ⟨c :: before, after, .plain hc hb, ha, rfl, rfl⟩
  | @escape c r hc hr ih =>
    match j with
    | 0 =>
      have hne : '\\' = sigil := Option.some.inj hj
      exact absurd hne (by decide)
    | 1 =>
      obtain rfl := Option.some.inj hj
      exact ⟨[], r, .nil, hr, rfl, rfl⟩
    | j + 2 =>
      obtain ⟨before, after, hb, ha, rfl, rfl⟩ := ih hj
      exact ⟨'\\' :: c :: before, after, .escape hc hb, ha, rfl, rfl⟩

/-! ## Spans -/

/-- A stretch of a text, by the position of its first character and the position behind its
last one. -/
structure Span where
  start : Nat
  stop : Nat
deriving DecidableEq, Repr

namespace Span

/-- The characters of a span. -/
def text (s : Text) (x : Span) : Text := (s.drop x.start).take (x.stop - x.start)

/-- The position is one of the span's. -/
def Covers (x : Span) (i : Nat) : Prop := x.start ≤ i ∧ i < x.stop

/-- One span ends before the other starts. -/
def Apart (x y : Span) : Prop := x.stop ≤ y.start ∨ y.stop ≤ x.start

instance : Std.Symm Apart := ⟨fun _ _ => Or.symm⟩

/-- A token that no unit behind it could make longer. -/
structure IsLongest (s : Text) (x : Span) : Prop where
  le_length : x.stop ≤ s.length
  isToken : IsToken (x.text s)
  not_unitAt : ¬ UnitAt s x.stop

end Span

/-- A sigil with a unit behind it. -/
def Opens (s : Text) (i : Nat) : Prop := s[i]? = some sigil ∧ UnitAt s (i + 1)

/-- The spans of all variable tokens of a text: tokens as long as they can be, no two of which
overlap, and one of which holds every sigil that has a unit behind it. -/
structure Tokenizes (s : Text) (S : Set Span) : Prop where
  isLongest : ∀ x ∈ S, x.IsLongest s
  disjoint : S.Pairwise Span.Apart
  covers : ∀ i, Opens s i → ∃ x ∈ S, x.Covers i

variable {s r us rest : Text} {i n : Nat} {x y : Span} {S T : Set Span} {spans : List Span}

/-! ## Only one set of spans -/

/-- Behind a run of units no unit starts. -/
theorem unitRun_rest (t : Text) : (unitRun (unitRun t).2).1 = [] := by
  have htwice := unitRun_append_of_units (units_unitRun t) (unitRun t).2
  rw [unitRun_append] at htwice
  exact List.self_eq_append_right.mp (congrArg Prod.fst htwice)

theorem Span.IsLongest.drop_start (h : x.IsLongest s) :
    s.drop x.start = x.text s ++ s.drop x.stop := by
  obtain ⟨us, -, -, htext⟩ := h.isToken
  have hlt : x.start ≤ x.stop := by
    by_contra hlt
    have hempty : x.text s = [] := by
      unfold Span.text
      rw [Nat.sub_eq_zero_of_le (Nat.le_of_not_le hlt), List.take_zero]
    rw [hempty] at htext
    cases htext
  have hstop : s.drop x.stop = (s.drop x.start).drop (x.stop - x.start) := by
    rw [List.drop_drop, Nat.add_sub_cancel' hlt]
  rw [hstop]
  exact (List.take_append_drop _ _).symm

theorem Span.IsLongest.length_text (h : x.IsLongest s) : x.start + (x.text s).length = x.stop := by
  have hlength := congrArg List.length h.drop_start
  obtain ⟨us, -, -, htext⟩ := h.isToken
  have hle := h.le_length
  rw [List.length_append, List.length_drop, List.length_drop, htext, List.length_cons] at hlength
  rw [htext, List.length_cons]
  omega

/-- A longest token starts with a sigil that has a unit behind it, and goes as far as the units. -/
theorem Span.IsLongest.opens (h : x.IsLongest s) : Opens s x.start ∧
    x.stop = x.start + 1 + (unitRun (s.drop (x.start + 1))).1.length := by
  obtain ⟨us, hne, hu, htext⟩ := h.isToken
  have hdrop := h.drop_start
  have hlength := h.length_text
  rw [htext] at hdrop hlength
  have hsigil : s[x.start]? = some sigil := by
    rw [← List.head?_drop, hdrop]
    rfl
  have hbehind : s.drop (x.start + 1) = us ++ s.drop x.stop := by
    rw [List.drop_eq_getElem?_toList_append, hsigil] at hdrop
    exact (List.cons.inj hdrop).2
  have hend : (unitRun (s.drop x.stop)).1 = [] := by
    by_contra hunit
    exact h.not_unitAt (unitAt_iff.mpr hunit)
  have hrun : (unitRun (s.drop (x.start + 1))).1 = us := by
    rw [hbehind, unitRun_append_of_units hu, hend, List.append_nil]
  refine ⟨⟨hsigil, unitAt_iff.mpr (by rwa [hrun])⟩, ?_⟩
  rw [hrun, ← hlength, List.length_cons]
  omega

theorem Span.IsLongest.covers_start (h : x.IsLongest s) : x.Covers x.start := by
  have hstop := h.opens.2
  exact ⟨Nat.le_refl _, by omega⟩

/-- Only one longest token starts at a position. -/
theorem Span.IsLongest.eq_of_start (hx : x.IsLongest s) (hy : y.IsLongest s)
    (h : x.start = y.start) : x = y := by
  obtain ⟨start, stop⟩ := x
  obtain ⟨start', stop'⟩ := y
  obtain rfl : start = start' := h
  have hstop : stop = stop' := hx.opens.2.trans hy.opens.2.symm
  rw [hstop]

/-- What covers the start of a span in one set is that span, if the spans before it are shared. -/
theorem Tokenizes.mem_of_mem (hS : Tokenizes s S) (hT : Tokenizes s T) (hx : x ∈ S)
    (hbefore : ∀ y ∈ T, y.start < x.start → y ∈ S) : x ∈ T := by
  have hlongest := hS.isLongest x hx
  obtain ⟨y, hy, hle, hlt⟩ := hT.covers x.start hlongest.opens.1
  rcases Nat.eq_or_lt_of_le hle with heq | hle
  · rwa [← (hT.isLongest y hy).eq_of_start hlongest heq]
  · have hne : y ≠ x := by
      rintro rfl
      exact Nat.lt_irrefl _ hle
    have hpositive := hlongest.covers_start.2
    rcases hS.disjoint (hbefore y hy hle) hx hne with h | h <;> omega

theorem Tokenizes.mem_iff (hS : Tokenizes s S) (hT : Tokenizes s T) (x : Span) :
    x ∈ S ↔ x ∈ T := by
  induction hn : x.start using Nat.strong_induction_on generalizing x with
  | _ n ih =>
    subst hn
    exact ⟨fun hx => hS.mem_of_mem hT hx fun y hy hlt => (ih y.start hlt y rfl).mpr hy,
      fun hx => hT.mem_of_mem hS hx fun y hy hlt => (ih y.start hlt y rfl).mp hy⟩

/-! ## The scan finds it -/

/-- The spans of the tokens from a position on, in order. -/
structure Scanned (s : Text) (n : Nat) (spans : List Span) : Prop where
  le_start : ∀ x ∈ spans, n ≤ x.start
  isLongest : ∀ x ∈ spans, x.IsLongest s
  ordered : spans.Pairwise fun x y => x.stop ≤ y.start
  covers : ∀ i, n ≤ i → Opens s i → ∃ x ∈ spans, x.Covers i

theorem not_opens (h : s.drop i = []) : ¬ Opens s i := by
  rintro ⟨hsigil, -⟩
  rw [← List.head?_drop, h] at hsigil
  cases hsigil

theorem scanned_nil (h : s.drop n = []) : Scanned s n [] where
  le_start x hx := absurd hx List.not_mem_nil
  isLongest x hx := absurd hx List.not_mem_nil
  ordered := List.Pairwise.nil
  covers i hi hopens := by
    have hnone : s.drop i = [] := List.drop_eq_nil_of_le ((List.drop_eq_nil_iff.mp h).trans hi)
    exact absurd hopens (not_opens hnone)

theorem Scanned.skip (h : Scanned s (n + 1) spans) (hn : ¬ Opens s n) : Scanned s n spans where
  le_start x hx := Nat.le_of_succ_le (h.le_start x hx)
  isLongest := h.isLongest
  ordered := h.ordered
  covers i hi hopens := by
    rcases Nat.eq_or_lt_of_le hi with rfl | hlt
    · exact absurd hopens hn
    · exact h.covers i hlt hopens

theorem Scanned.cons (h : Scanned s x.stop spans) (hx : x.IsLongest s) :
    Scanned s x.start (x :: spans) where
  le_start y hy := by
    rcases List.mem_cons.mp hy with rfl | hy
    · exact Nat.le_refl _
    · exact hx.covers_start.2.le.trans (h.le_start y hy)
  isLongest := List.forall_mem_cons.mpr ⟨hx, h.isLongest⟩
  ordered := List.pairwise_cons.mpr ⟨h.le_start, h.ordered⟩
  covers i hi hopens := by
    by_cases hstop : i < x.stop
    · exact ⟨x, List.mem_cons_self, hi, hstop⟩
    · obtain ⟨y, hy, hcovers⟩ := h.covers i (Nat.le_of_not_lt hstop) hopens
      exact ⟨y, List.mem_cons_of_mem x hy, hcovers⟩

/-- The token that starts at a sigil with units behind it. -/
theorem isLongest_of_unitRun (hs : s.drop n = sigil :: r) (hrun : unitRun r = (us, rest))
    (hne : us ≠ []) :
    let x : Span := ⟨n, n + 1 + us.length⟩
    x.IsLongest s ∧ x.text s = sigil :: us ∧ s.drop x.stop = rest := by
  intro x
  have happend : us ++ rest = r := by
    have h := unitRun_append r
    rwa [hrun] at h
  have hwidth : x.stop - x.start = (sigil :: us).length := by
    show n + 1 + us.length - n = us.length + 1
    omega
  have htext : x.text s = sigil :: us := by
    unfold Span.text
    rw [hwidth, hs, ← happend, ← List.cons_append]
    exact List.take_left
  have hrest : s.drop x.stop = rest := by
    have hstop : x.stop = n + (sigil :: us).length := by
      rw [List.length_cons]
      exact Nat.add_right_comm n 1 us.length
    rw [hstop, ← List.drop_drop, hs, ← happend, ← List.cons_append]
    exact List.drop_left
  have hu := units_unitRun r
  have hend := unitRun_rest r
  rw [hrun] at hu hend
  refine ⟨⟨?_, ⟨us, hne, hu, htext⟩, ?_⟩, htext, hrest⟩
  · have hlength := congrArg List.length hs
    rw [List.length_drop, ← happend, List.length_cons, List.length_append] at hlength
    show n + 1 + us.length ≤ s.length
    omega
  · rw [unitAt_iff, hrest]
    exact fun h => h hend

theorem exists_scanned {t : Text} (h : s.drop n = t) :
    ∃ spans, Scanned s n spans ∧ spans.map (Span.text s) = tokens t := by
  have htail {c : Char} {r : Text} {n : Nat} (h : s.drop n = c :: r) : s.drop (n + 1) = r := by
    rw [← List.tail_drop, h]
    rfl
  induction t using tokens.induct generalizing n with
  | case1 => exact ⟨[], scanned_nil h, by rw [tokens]; rfl⟩
  | case2 r rest _ hrun ih =>
    obtain ⟨spans, hspans, htexts⟩ := ih (htail h)
    have hclosed : ¬ Opens s n := by
      rintro ⟨-, hunit⟩
      rw [unitAt_iff, htail h, hrun] at hunit
      exact hunit rfl
    refine ⟨spans, hspans.skip hclosed, ?_⟩
    rw [htexts, tokens_sigil, hrun]
  | case3 r u us rest _ hrun ih =>
    obtain ⟨hlongest, htext, hrest⟩ := isLongest_of_unitRun h hrun (List.cons_ne_nil u us)
    obtain ⟨spans, hspans, htexts⟩ := ih hrest
    refine ⟨_, hspans.cons hlongest, ?_⟩
    rw [List.map_cons, htext, htexts, tokens_sigil, hrun]
  | case4 c r hc ih =>
    obtain ⟨spans, hspans, htexts⟩ := ih (htail h)
    have hclosed : ¬ Opens s n := by
      rintro ⟨hsigil, -⟩
      rw [← List.head?_drop, h] at hsigil
      exact hc (Option.some.inj hsigil)
    refine ⟨spans, hspans.skip hclosed, ?_⟩
    rw [htexts, tokens_cons hc]

theorem Scanned.tokenizes (h : Scanned s 0 spans) : Tokenizes s {x | x ∈ spans} where
  isLongest := h.isLongest
  disjoint := by
    have hapart : spans.Pairwise Span.Apart := h.ordered.imp Or.inl
    exact fun x hx y hy hne => hapart.forall hx hy hne
  covers i hi := h.covers i (Nat.zero_le i) hi

/-! ## Sigils inside a span -/

/-- The position is that of a sigil escaped by the backslash before it, units around both. -/
def Span.EscapesAt (s : Text) (x : Span) (i : Nat) : Prop :=
  ∃ before after, Units before ∧ Units after ∧
    x.text s = sigil :: (before ++ '\\' :: sigil :: after) ∧ i = x.start + before.length + 2

/-- A sigil in a token is its first character, or escaped. -/
theorem Span.IsLongest.sigil_inside (h : x.IsLongest s) (hi : x.Covers i)
    (hsigil : s[i]? = some sigil) : i = x.start ∨ x.EscapesAt s i := by
  obtain ⟨us, -, hu, htext⟩ := h.isToken
  obtain ⟨hstart, hstop⟩ := hi
  rcases Nat.eq_or_lt_of_le hstart with heq | hlt
  · exact .inl heq.symm
  obtain ⟨j, rfl⟩ : ∃ j, i = x.start + (j + 1) := ⟨i - x.start - 1, by omega⟩
  have hlength := h.length_text
  have hinside : us[j]? = some sigil := by
    rw [← List.getElem?_drop, h.drop_start, htext, List.cons_append, List.getElem?_cons_succ,
      List.getElem?_append_left] at hsigil
    · exact hsigil
    · rw [htext, List.length_cons] at hlength
      omega
  obtain ⟨before, after, hb, ha, rfl, rfl⟩ := hu.escaped_sigil hinside
  exact .inr ⟨before, after, hb, ha, htext, rfl⟩

/-! ## What a scrape leaves -/

/-- A scrape into no names counts the different tokens. -/
theorem scrape_empty_fst (s : Text) : (Names.empty.scrape s).1 = (tokens s).toFinset.card := by
  have hdistinct : (tokens s).eraseDups.toFinset = (tokens s).toFinset := by
    ext name
    rw [List.mem_toFinset, List.mem_toFinset, List.mem_eraseDups]
  have hsize : (Names.empty.scrape s).2.size = 0 + (Names.empty.scrape s).1 :=
    Names.size_insertAll Names.empty (tokens s)
  calc (Names.empty.scrape s).1
      = (Names.empty.scrape s).2.toList.length := by
        rw [Names.length_toList, hsize, Nat.zero_add]
    _ = (tokens s).eraseDups.toFinset.card := by
        rw [Names.coherent_empty.toList_scrape,
          List.toFinset_card_of_nodup (nodup_eraseDups (tokens s))]
        rfl
    _ = (tokens s).toFinset.card := by rw [hdistinct]

/-- The tokens of a text stand on one set of spans, the only one that tokenizes it, listed in
order; a sigil with a unit behind it is the first character of one of them or escaped in it. A
scrape into no names leaves the texts of these spans, each at its first occurrence, and counts how
many different ones there are. -/
theorem scrape_spans (s : Text) :
    ∃ spans : List Span,
      (∀ S : Set Span, Tokenizes s S ↔ S = {x | x ∈ spans}) ∧
      spans.Pairwise (fun x y => x.stop ≤ y.start) ∧
      (∀ i, Opens s i → ∃ x ∈ spans, x.Covers i ∧ (i = x.start ∨ x.EscapesAt s i)) ∧
      tokens s = spans.map (Span.text s) ∧
      (Names.empty.scrape s).2.toList = (spans.map (Span.text s)).eraseDups ∧
      (Names.empty.scrape s).1 = (spans.map (Span.text s)).toFinset.card := by
  obtain ⟨spans, hspans, htexts⟩ := exists_scanned (List.drop_zero (l := s))
  have htokenizes := hspans.tokenizes
  have hnames : (Names.empty.scrape s).2.toList = (tokens s).eraseDups :=
    Names.coherent_empty.toList_scrape s
  refine ⟨spans, fun S => ⟨fun hS => Set.ext (hS.mem_iff htokenizes), ?_⟩, hspans.ordered,
    ?_, htexts.symm, ?_, ?_⟩
  · rintro rfl
    exact htokenizes
  · intro i hi
    obtain ⟨x, hx, hcovers⟩ := htokenizes.covers i hi
    exact ⟨x, hx, hcovers, (hspans.isLongest x hx).sigil_inside hcovers hi.1⟩
  · rw [hnames, htexts]
  · rw [htexts, scrape_empty_fst]

end StyleVars.Variable
