import StyleVars.Text.Basic

/-
  Pieces of a text. That splitting at a separator and joining with it undo each other is
  `List.intercalate_splitOn` and `List.splitOn_intercalate`; here is what paths and lists of fields
  need besides. No piece holds the separator (`notMem_of_mem_splitAt`), a joined text holds what its
  members hold and the separator (`mem_joinWith`), and runs of members may be joined one by one
  (`joinWith_append`). What is shown of a list of fields or items along its text is shown member by
  member (`joinWith_induction`).
-/

namespace StyleVars.Text

variable {sep : Char}

/-- A separator in front ends an empty piece. -/
theorem splitAt_sep (t : Text) : splitAt sep (sep :: t) = [] :: splitAt sep t :=
  List.splitOn_append_cons_self [] t

/-- A character that is no separator belongs to the first piece. -/
theorem splitAt_cons {c : Char} (hc : c ≠ sep) {t s : Text} {ss : List Text}
    (h : splitAt sep t = s :: ss) : splitAt sep (c :: t) = (c :: s) :: ss := by
  have hstep : splitAt sep (c :: t) =
      if (c == sep) = true then [] :: splitAt sep t else (splitAt sep t).modifyHead (c :: ·) :=
    List.splitOn_cons_eq_if_modifyHead c t
  rw [hstep, if_neg (by simpa using hc), h, List.modifyHead_cons]

theorem splitAt_eq_cons (sep : Char) (t : Text) : ∃ s ss, splitAt sep t = s :: ss :=
  List.exists_cons_of_ne_nil (List.splitOn_ne_nil sep t)

theorem notMem_of_mem_splitAt {t s : Text} (h : s ∈ splitAt sep t) : sep ∉ s := by
  induction t generalizing s with
  | nil =>
    obtain rfl := List.mem_singleton.mp h
    exact List.not_mem_nil
  | cons c t ih =>
    by_cases hc : c = sep
    · subst hc
      rw [splitAt_sep] at h
      rcases List.mem_cons.mp h with rfl | h
      · exact List.not_mem_nil
      · exact ih h
    · obtain ⟨p, ps, hp⟩ := splitAt_eq_cons sep t
      rw [hp] at ih
      rw [splitAt_cons hc hp] at h
      rcases List.mem_cons.mp h with rfl | h
      · rw [List.mem_cons, not_or]
        exact ⟨Ne.symm hc, ih List.mem_cons_self⟩
      · exact ih (List.mem_cons_of_mem p h)

theorem splitAt_eq_concat (sep : Char) (t : Text) :
    ∃ init last, splitAt sep t = init ++ [last] ∧ sep ∉ last := by
  have hne : splitAt sep t ≠ [] := List.splitOn_ne_nil sep t
  exact ⟨_, _, (List.dropLast_concat_getLast hne).symm,
    notMem_of_mem_splitAt (List.getLast_mem hne)⟩

theorem mem_joinWith {sep : Text} {ts : List Text} {c : Char} (h : c ∈ joinWith sep ts) :
    c ∈ sep ∨ ∃ t ∈ ts, c ∈ t := by
  unfold joinWith at h
  induction ts with
  | nil => cases h
  | cons t ts ih =>
    by_cases hts : ts = []
    · subst hts
      rw [List.intercalate_singleton] at h
      exact .inr ⟨t, List.mem_cons_self, h⟩
    rw [List.intercalate_cons_of_ne_nil hts, List.mem_append, List.mem_append] at h
    rcases h with (h | h) | h
    · exact .inr ⟨t, List.mem_cons_self, h⟩
    · exact .inl h
    · rcases ih h with h | ⟨s, hs, h⟩
      · exact .inl h
      · exact .inr ⟨s, List.mem_cons_of_mem t hs, h⟩

theorem mem_joinWith_of_mem {sep t : Text} {ts : List Text} {c : Char} (ht : t ∈ ts) (hc : c ∈ t) :
    c ∈ joinWith sep ts := by
  unfold joinWith
  induction ts with
  | nil => cases ht
  | cons u ts ih =>
    by_cases hts : ts = []
    · subst hts
      obtain rfl := List.mem_singleton.mp ht
      rwa [List.intercalate_singleton]
    rw [List.intercalate_cons_of_ne_nil hts, List.mem_append]
    rcases List.mem_cons.mp ht with rfl | ht
    · exact .inl (List.mem_append_left sep hc)
    · exact .inr (ih ht)

theorem mem_of_mem_splitAt {t s : Text} {c : Char} (hs : s ∈ splitAt sep t) (hc : c ∈ s) :
    c ∈ t := by
  have hjoin : joinWith [sep] (splitAt sep t) = t := List.intercalate_splitOn sep
  rw [← hjoin]
  exact mem_joinWith_of_mem hs hc

/-- Joining two runs of pieces is joining each and putting a separator between. -/
theorem joinWith_append {sep : Text} {ss ts : List Text} (hs : ss ≠ []) (ht : ts ≠ []) :
    joinWith sep (ss ++ ts) = joinWith sep ss ++ sep ++ joinWith sep ts := by
  unfold joinWith
  induction ss with
  | nil => exact absurd rfl hs
  | cons s ss ih =>
    have hrest : ss ++ ts ≠ [] := List.append_ne_nil_of_right_ne_nil ss ht
    rw [List.cons_append, List.intercalate_cons_of_ne_nil hrest]
    by_cases hss : ss = []
    · subst hss
      rw [List.intercalate_singleton, List.nil_append]
    · rw [ih hss, List.intercalate_cons_of_ne_nil hss]
      simp only [List.append_assoc]

/-- Members spelled one by one, with `sep` between neighbours and `close` behind the last: what
holds of a last member, and of a member in front of members of which it holds, holds of them all. -/
theorem joinWith_induction {α β : Type} {f : α → β} {spell : α → Text} {sep close : Text}
    {motive : List β → Text → Prop} {ms : List α} (hne : ms ≠ [])
    (last : ∀ m ∈ ms, motive [f m] (spell m ++ close))
    (cons : ∀ m ∈ ms, ∀ vs t, motive vs t → motive (f m :: vs) (spell m ++ (sep ++ t))) :
    motive (ms.map f) (joinWith sep (ms.map spell) ++ close) := by
  unfold joinWith
  induction ms with
  | nil => exact absurd rfl hne
  | cons m ms ih =>
    by_cases hms : ms = []
    · subst hms
      rw [List.map_singleton, List.map_singleton, List.intercalate_singleton]
      exact last m List.mem_cons_self
    · have hrest := ih hms (fun x hx => last x (List.mem_cons_of_mem m hx))
        fun x hx => cons x (List.mem_cons_of_mem m hx)
      have hspelled : ms.map spell ≠ [] := by simpa using hms
      rw [List.map_cons, List.map_cons, List.intercalate_cons_of_ne_nil hspelled,
        List.append_assoc, List.append_assoc]
      exact cons m List.mem_cons_self _ _ hrest

/-- Characters that are no separators lengthen the last piece. -/
theorem splitAt_append_of_notMem {s t : Text} (ht : sep ∉ t) {init : List Text} {last : Text}
    (hs : splitAt sep s = init ++ [last]) : splitAt sep (s ++ t) = init ++ [last ++ t] := by
  have hsplit : joinWith [sep] (init ++ [last]) = s := by
    rw [← hs]
    exact List.intercalate_splitOn sep
  have htext : joinWith [sep] (init ++ [last ++ t]) = s ++ t := by
    rw [← hsplit]
    cases init with
    | nil => simp
    | cons u us =>
      have hne : u :: us ≠ [] := List.cons_ne_nil u us
      rw [joinWith_append hne (List.cons_ne_nil _ _), joinWith_append hne (List.cons_ne_nil _ _)]
      simp
  have hpieces : ∀ piece ∈ init ++ [last], sep ∉ piece := by
    rw [← hs]
    exact fun _ => notMem_of_mem_splitAt
  rw [← htext]
  refine List.splitOn_intercalate sep (fun piece hpiece => ?_) (by simp)
  rcases List.mem_append.mp hpiece with hinit | hlast
  · exact hpieces piece (List.mem_append_left _ hinit)
  · obtain rfl := List.mem_singleton.mp hlast
    have hbefore := hpieces last (List.mem_append_right init List.mem_cons_self)
    rw [List.mem_append, not_or]
    exact ⟨hbefore, ht⟩

end StyleVars.Text
