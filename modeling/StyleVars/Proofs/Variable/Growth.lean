import StyleVars.Proofs.Variable.Names

/-
  How the names grow. Whatever is done to them, order and index stay coherent and what is listed
  stays listed at its place (`Coherent.apply`, `Coherent.prefix_apply`); so the names that some
  operations leave are a prefix of what more operations leave (`prefix_after`), and a text that was
  scraped once has nothing to add later (`Coherent.scrape_of_subset`).
-/

namespace StyleVars.Variable.Names

variable {s : Names}

/-! ## One operation -/

/-- Something done to the names. -/
inductive Operation where
  | insert (name : Text)
  | scrape (source : Text)

/-- The names after an operation. -/
def apply (s : Names) : Operation → Names
  | .insert name => (s.insert name).2
  | .scrape source => (s.scrape source).2

theorem Coherent.apply (hs : s.Coherent) (operation : Operation) :
    (s.apply operation).Coherent := by
  cases operation with
  | insert name => exact hs.insert name
  | scrape source => exact hs.scrape source

/-- Names that are taken up stand behind those that are there, each once. -/
theorem Coherent.toList_insertAll_eq_append (hs : s.Coherent) (names : List Text) :
    (s.insertAll names).2.toList = s.toList ++ (names.removeAll s.toList).eraseDups := by
  rw [hs.toList_insertAll, List.eraseDups_append, eraseDups_of_nodup hs.nodup]

theorem prefix_insert (s : Names) (name : Text) : s.toList <+: (s.insert name).2.toList := by
  rw [toList_insert]
  split
  · exact List.prefix_refl _
  · exact List.prefix_append _ _

theorem Coherent.prefix_apply (hs : s.Coherent) (operation : Operation) :
    s.toList <+: (s.apply operation).toList := by
  cases operation with
  | insert name => exact prefix_insert s name
  | scrape source =>
    have hlist := hs.toList_insertAll_eq_append (tokens source)
    exact ⟨_, hlist.symm⟩

/-- An insertion says that the name is new exactly if the list grows. -/
theorem insert_fst_iff (s : Names) (name : Text) :
    (s.insert name).1 = true ↔ s.toList.length < (s.insert name).2.toList.length := by
  rw [length_toList, length_toList, size_insert]
  cases (s.insert name).1 <;> simp

/-- A text all of whose tokens are listed changes nothing. -/
theorem Coherent.scrape_of_subset (hs : s.Coherent) {source : Text}
    (h : ∀ name ∈ tokens source, name ∈ s.toList) : s.scrape source = (0, s) := by
  have hstate : (s.scrape source).2 = s := hs.insertAll_of_subset h
  have hsize : (s.scrape source).2.size = s.size + (s.scrape source).1 :=
    size_insertAll s (tokens source)
  rw [hstate] at hsize
  have hcount : (s.scrape source).1 = 0 := by omega
  exact Prod.ext hcount hstate

/-! ## Any number of operations -/

/-- The names after some operations, none being there at first. -/
def after (operations : List Operation) : Names := operations.foldl apply empty

theorem after_append (operations more : List Operation) :
    after (operations ++ more) = more.foldl apply (after operations) := by
  unfold after
  rw [List.foldl_append]

theorem Coherent.foldl_apply (hs : s.Coherent) (operations : List Operation) :
    (operations.foldl Names.apply s).Coherent ∧
      s.toList <+: (operations.foldl Names.apply s).toList := by
  induction operations generalizing s with
  | nil => exact ⟨hs, List.prefix_refl _⟩
  | cons operation operations ih =>
    obtain ⟨hcoherent, hprefix⟩ := ih (hs.apply operation)
    exact ⟨hcoherent, (hs.prefix_apply operation).trans hprefix⟩

theorem coherent_after (operations : List Operation) : (after operations).Coherent :=
  (coherent_empty.foldl_apply operations).1

theorem prefix_after (operations more : List Operation) :
    (after operations).toList <+: (after (operations ++ more)).toList := by
  rw [after_append]
  exact ((coherent_after operations).foldl_apply more).2

/-- The tokens of a text are listed ever after it was scraped. -/
theorem mem_after_of_scraped {operations : List Operation} {source : Text}
    (h : .scrape source ∈ operations) : ∀ name ∈ tokens source, name ∈ (after operations).toList := by
  intro name hname
  obtain ⟨before, later, rfl⟩ := List.append_of_mem h
  have hscraped : name ∈ (after (before ++ [.scrape source])).toList := by
    rw [after_append]
    exact (coherent_after before).mem_scrape.mpr (.inr hname)
  have hprefix := prefix_after (before ++ [.scrape source]) later
  rw [List.append_assoc, List.singleton_append] at hprefix
  exact hprefix.subset hscraped

/-- After any operations no name is listed twice, the index holds what is listed, and the size is
the length of the list. From there an insertion, a scrape and whatever follows only append to the
list: an insertion says whether it did, and a scrape how many names it appended, which is none if
its text was scraped before. -/
theorem after_invariant (operations : List Operation) :
    let s := after operations
    s.toList.Nodup ∧
    (∀ name, s.contains name = true ↔ name ∈ s.toList) ∧
    s.size = s.toList.length ∧
    (∀ more, s.toList <+: (after (operations ++ more)).toList) ∧
    (∀ name, after (operations ++ [.insert name]) = (s.insert name).2 ∧
      ((s.insert name).1 = true ↔ s.toList.length < (s.insert name).2.toList.length)) ∧
    (∀ source, after (operations ++ [.scrape source]) = (s.scrape source).2 ∧
      ∃ appended, (s.scrape source).2.toList = s.toList ++ appended ∧
        (s.scrape source).1 = appended.length) ∧
    ∀ source, .scrape source ∈ operations → s.scrape source = (0, s) := by
  intro s
  have hs : s.Coherent := coherent_after operations
  refine ⟨hs.nodup, hs.contains_iff, (length_toList s).symm, prefix_after operations, ?_, ?_, ?_⟩
  · intro name
    exact ⟨after_append operations [.insert name], insert_fst_iff s name⟩
  · intro source
    have hlist : (s.scrape source).2.toList =
        s.toList ++ ((tokens source).removeAll s.toList).eraseDups :=
      hs.toList_insertAll_eq_append (tokens source)
    have hsize : (s.scrape source).2.size = s.size + (s.scrape source).1 :=
      size_insertAll s (tokens source)
    refine ⟨after_append operations [.scrape source], _, hlist, ?_⟩
    have hlength := congrArg List.length hlist
    rw [List.length_append, length_toList, length_toList, hsize] at hlength
    omega
  · intro source hsource
    exact hs.scrape_of_subset (mem_after_of_scraped hsource)

/-- A text scraped again behind an insertion. -/
theorem after_invariant_again :
    let operations := [.scrape "$b: $a;".toList, .insert "$c".toList]
    .scrape "$b: $a;".toList ∈ operations ∧
      (after operations).scrape "$b: $a;".toList = (0, after operations) := by
  intro operations
  have hscraped : .scrape "$b: $a;".toList ∈ operations := List.mem_cons_self
  obtain ⟨-, -, -, -, -, -, hagain⟩ := after_invariant operations
  exact ⟨hscraped, hagain _ hscraped⟩

end StyleVars.Variable.Names
