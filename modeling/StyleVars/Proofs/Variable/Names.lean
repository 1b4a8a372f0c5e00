import Mathlib.Data.List.Nodup
import StyleVars.Variable.Names
import StyleVars.Proofs.Variable.Token

/-
  The names a session has seen, as a list. Order and index of `Names` stay coherent under every
  operation, and the list is all there is to say about them: taking up names appends them and
  keeps first occurrences (`toList_insertAll`). Every listed name is a token once all of them come
  from scraped texts.
-/

namespace StyleVars.Variable

/-! ## First occurrences -/

section FirstOccurrences

variable {α : Type} [BEq α] [LawfulBEq α]

theorem nodup_eraseDups (l : List α) : l.eraseDups.Nodup := by
  match l with
  | [] => exact List.nodup_nil
  | a :: l =>
    rw [List.eraseDups_cons, List.nodup_cons]
    refine ⟨?_, nodup_eraseDups (l.filter fun b => !b == a)⟩
    rw [List.mem_eraseDups]
    simp
termination_by l.length
decreasing_by exact Nat.lt_succ_of_le (List.length_filter_le _ l)

theorem eraseDups_of_nodup {l : List α} (h : l.Nodup) : l.eraseDups = l := by
  induction l with
  | nil => rfl
  | cons a l ih =>
    obtain ⟨ha, hl⟩ := List.nodup_cons.mp h
    have hfilter : (l.filter fun b => !b == a) = l := by
      rw [List.filter_eq_self]
      intro b hb
      have hne : b ≠ a := fun hba => ha (hba ▸ hb)
      simpa using hne
    rw [List.eraseDups_cons, hfilter, ih hl]

/-- Dropping repetitions early changes nothing. -/
theorem eraseDups_append_left (l m : List α) :
    (l.eraseDups ++ m).eraseDups = (l ++ m).eraseDups := by
  have hremove : m.removeAll l.eraseDups = m.removeAll l := by
    unfold List.removeAll
    congr 1
    funext a
    congr 1
    rw [Bool.eq_iff_iff, List.elem_iff, List.elem_iff, List.mem_eraseDups]
  rw [List.eraseDups_append, List.eraseDups_append, eraseDups_of_nodup (nodup_eraseDups l),
    hremove]

theorem eraseDups_concat_of_mem {l : List α} (h : l.Nodup) {a : α} (ha : a ∈ l) :
    (l ++ [a]).eraseDups = l := by
  have hremove : [a].removeAll l = [] := by
    unfold List.removeAll
    rw [List.filter_cons_of_neg (by simp [ha]), List.filter_nil]
  rw [List.eraseDups_append, eraseDups_of_nodup h, hremove, List.eraseDups_nil, List.append_nil]

theorem eraseDups_concat_of_notMem {l : List α} (h : l.Nodup) {a : α} (ha : a ∉ l) :
    (l ++ [a]).eraseDups = l ++ [a] := by
  apply eraseDups_of_nodup
  rw [List.nodup_append]
  refine ⟨h, by simp, ?_⟩
  rintro b hb c hc rfl
  obtain rfl := List.mem_singleton.mp hc
  exact ha hb

end FirstOccurrences

namespace Names

/-! ## Order and index -/

/-- The index holds exactly the listed names, and no name is listed twice. -/
structure Coherent (s : Names) : Prop where
  contains_iff : ∀ name, s.contains name = true ↔ name ∈ s.toList
  nodup : s.toList.Nodup

theorem coherent_empty : empty.Coherent where
  contains_iff name := by simp [contains, empty, toList]
  nodup := List.nodup_nil

theorem length_toList (s : Names) : s.toList.length = s.size := Array.length_toList

theorem toList_insert (s : Names) (name : Text) :
    (s.insert name).2.toList = if s.contains name then s.toList else s.toList ++ [name] := by
  unfold insert
  by_cases h : s.contains name = true
  · rw [if_pos h, if_pos h]
  · rw [if_neg h, if_neg h]
    simp [toList]

theorem contains_insert (s : Names) (name other : Text) :
    (s.insert name).2.contains other = (s.contains other || name == other) := by
  unfold insert
  by_cases h : s.contains name = true
  · rw [if_pos h]
    by_cases hn : name = other
    · subst hn
      simp [h]
    · simp [hn]
  · rw [if_neg h]
    simp [contains, Std.HashSet.contains_insert, Bool.or_comm]

variable {s : Names}

theorem Coherent.toList_insert_eq (hs : s.Coherent) (name : Text) :
    (s.insert name).2.toList = (s.toList ++ [name]).eraseDups := by
  rw [toList_insert]
  by_cases h : s.contains name = true
  · rw [if_pos h, eraseDups_concat_of_mem hs.nodup ((hs.contains_iff name).mp h)]
  · rw [if_neg h, eraseDups_concat_of_notMem hs.nodup fun hn => h ((hs.contains_iff name).mpr hn)]

theorem Coherent.insert (hs : s.Coherent) (name : Text) : (s.insert name).2.Coherent where
  contains_iff other := by
    rw [contains_insert, hs.toList_insert_eq, List.mem_eraseDups, List.mem_append,
      List.mem_singleton, Bool.or_eq_true, hs.contains_iff, beq_iff_eq, eq_comm (a := name)]
  nodup := by
    rw [hs.toList_insert_eq]
    exact nodup_eraseDups _

/-! ## Taking up many names -/

theorem insertAll_snd (s : Names) (names : List Text) :
    (s.insertAll names).2 = names.foldl (fun s name => (s.insert name).2) s := by
  unfold insertAll
  generalize 0 = n
  induction names generalizing n s with
  | nil => rfl
  | cons name names ih => exact ih _ _

theorem Coherent.insertAll (hs : s.Coherent) (names : List Text) :
    (s.insertAll names).2.Coherent := by
  rw [insertAll_snd]
  induction names generalizing s with
  | nil => exact hs
  | cons name names ih => exact ih (hs.insert name)

/-- Names are appended, and each stays at its first place. -/
theorem Coherent.toList_insertAll (hs : s.Coherent) (names : List Text) :
    (s.insertAll names).2.toList = (s.toList ++ names).eraseDups := by
  rw [insertAll_snd]
  induction names generalizing s with
  | nil => rw [List.append_nil, eraseDups_of_nodup hs.nodup]; rfl
  | cons name names ih =>
    rw [List.foldl_cons, ih (hs.insert name), hs.toList_insert_eq, eraseDups_append_left,
      List.append_assoc, List.singleton_append]

/-- Names that are all there leave order and index as they are. -/
theorem Coherent.insertAll_of_subset (hs : s.Coherent) {names : List Text}
    (h : ∀ name ∈ names, name ∈ s.toList) : (s.insertAll names).2 = s := by
  rw [insertAll_snd]
  induction names with
  | nil => rfl
  | cons name names ih =>
    have hname : s.contains name = true := (hs.contains_iff name).mpr (h name List.mem_cons_self)
    have hinsert : (s.insert name).2 = s := by
      unfold Names.insert
      rw [if_pos hname]
    rw [List.foldl_cons, hinsert]
    exact ih fun n hn => h n (List.mem_cons_of_mem name hn)

theorem size_insert (s : Names) (name : Text) :
    (s.insert name).2.size = s.size + if (s.insert name).1 then 1 else 0 := by
  unfold insert
  by_cases h : s.contains name = true
  · rw [if_pos h]
    rfl
  · rw [if_neg h]
    exact Array.size_push _

/-- The count is by how much the names grew. -/
theorem size_insertAll (s : Names) (names : List Text) :
    (s.insertAll names).2.size = s.size + (s.insertAll names).1 := by
  unfold insertAll
  refine List.foldlRecOn (motive := fun r : Nat × Names => r.2.size = s.size + r.1) names _ rfl ?_
  rintro ⟨n, t⟩ ht name -
  dsimp only at ht ⊢
  rw [size_insert, ht]
  split <;> rfl

theorem Coherent.scrape (hs : s.Coherent) (source : Text) : (s.scrape source).2.Coherent :=
  hs.insertAll (tokens source)

theorem Coherent.toList_scrape (hs : s.Coherent) (source : Text) :
    (s.scrape source).2.toList = (s.toList ++ tokens source).eraseDups :=
  hs.toList_insertAll (tokens source)

theorem Coherent.mem_scrape (hs : s.Coherent) {source name : Text} :
    name ∈ (s.scrape source).2.toList ↔ name ∈ s.toList ∨ name ∈ tokens source := by
  rw [hs.toList_scrape, List.mem_eraseDups, List.mem_append]

/-! ## The names of several texts -/

/-- The names of several texts, scraped one after the other. -/
def ofSources (sources : List Text) : Names :=
  sources.foldl (fun s source => (s.scrape source).2) empty

theorem Coherent.foldl_scrape (hs : s.Coherent) (sources : List Text) :
    (sources.foldl (fun s source => (s.scrape source).2) s).Coherent ∧
      (sources.foldl (fun s source => (s.scrape source).2) s).toList =
        (s.toList ++ sources.flatMap tokens).eraseDups := by
  induction sources generalizing s with
  | nil =>
    rw [List.flatMap_nil, List.append_nil, eraseDups_of_nodup hs.nodup]
    exact ⟨hs, rfl⟩
  | cons source sources ih =>
    obtain ⟨hcoherent, hlist⟩ := ih (hs.scrape source)
    refine ⟨hcoherent, ?_⟩
    rw [List.foldl_cons, hlist, hs.toList_scrape, eraseDups_append_left, List.append_assoc,
      List.flatMap_cons]

theorem coherent_ofSources (sources : List Text) : (ofSources sources).Coherent :=
  (coherent_empty.foldl_scrape sources).1

theorem toList_ofSources (sources : List Text) :
    (ofSources sources).toList = (sources.flatMap tokens).eraseDups :=
  (coherent_empty.foldl_scrape sources).2

theorem mem_ofSources {sources : List Text} {name : Text} :
    name ∈ (ofSources sources).toList ↔ ∃ source ∈ sources, name ∈ tokens source := by
  rw [toList_ofSources, List.mem_eraseDups, List.mem_flatMap]

theorem isToken_of_mem_ofSources {sources : List Text} {name : Text}
    (h : name ∈ (ofSources sources).toList) : IsToken name := by
  obtain ⟨source, -, h⟩ := mem_ofSources.mp h
  exact isToken_of_mem_tokens h

/-- There are as many keys as names. -/
theorem length_keys (s : Names) : s.keys.length = s.size := by
  unfold keys
  rw [List.length_map, length_toList]

/-- The names of scraped texts have keys of their own. -/
theorem nodup_keys_ofSources (sources : List Text) :
    ((ofSources sources).toList.map key).Nodup :=
  (coherent_ofSources sources).nodup.map_on fun _ hm _ hn =>
    key_inj (isToken_of_mem_ofSources hm) (isToken_of_mem_ofSources hn)

end Names
end StyleVars.Variable
