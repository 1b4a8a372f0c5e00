import StyleVars.Proofs.Resolve.Shape

/-
  References with and without the default extension. Where a path ends with its name, the pieces in
  front of the name do not depend on it (`parts_of_last`): with more characters behind, the path
  still lies in the same directory, and its name has them behind it. The default extension is such
  characters, and a name that has it is not completed again, so a reference and the same reference
  with the extension written out have the same candidates (`candidates_completed`).
-/

namespace StyleVars.Path

/-! ## The last piece -/

/-- What is in front of a name at the end of a path makes its start and its other segments. -/
theorem parts_of_last (init : List Text) :
    ∃ start front, ∀ (p : Path) (n : Text), IsName n → Text.splitAt '/' p.text = init ++ [n] →
      p.parts = ⟨start, front ++ [n]⟩ := by
  cases init with
  | nil => exact ⟨.plain, [], fun p n hn h => parts_of_pieces h hn.isVoid_eq⟩
  | cons u us =>
    by_cases hroot : u = []
    · subst hroot
      refine ⟨.root, us, fun p n _ h => ?_⟩
      unfold parts
      rw [h]
      cases us <;> rfl
    by_cases hhere : u = ['.']
    · subst hhere
      refine ⟨.here, us, fun p n _ h => ?_⟩
      unfold parts
      rw [h]
      rfl
    · have hvoid : isVoid u = false := by simp [isVoid, hroot, hhere]
      exact ⟨.plain, u :: us, fun p n _ h => parts_of_pieces h hvoid⟩

variable {p q : Path} {init : List Text} {n m : Text}

theorem fileName?_of_last (hn : IsName n) (hp : Text.splitAt '/' p.text = init ++ [n]) :
    p.fileName? = some n := by
  obtain ⟨start, front, hparts⟩ := parts_of_last init
  rw [fileName?_eq_some]
  unfold components
  rw [hparts p n hn hp, List.filterMap_append, ← List.append_assoc, List.filterMap_cons,
    hn.component?_eq, List.filterMap_nil, List.getLast?_concat]

/-- The name at the end has no part in the directory. -/
theorem directory_of_last (hn : IsName n) (hm : IsName m)
    (hp : Text.splitAt '/' p.text = init ++ [n]) (hq : Text.splitAt '/' q.text = init ++ [m]) :
    p.directory = q.directory := by
  obtain ⟨start, front, hparts⟩ := parts_of_last init
  have hdirectory {r : Path} {k : Text} (hk : IsName k) (hr : r.parts = ⟨start, front ++ [k]⟩) :
      r.directory = Parts.path ⟨start, Text.dropEndWhile isVoid front⟩ := by
    have htrim : Text.dropEndWhile isVoid r.parts.segments = front ++ [k] := by
      rw [hr, dropEndWhile_concat hk]
    rw [directory_of_trim htrim, hr]
  rw [hdirectory hn (hparts p n hn hp), hdirectory hm (hparts q m hm hq)]

/-- If the text of a path ends in its file name, that name is all of its last piece. -/
theorem exists_splitAt_of_suffix (hn : p.fileName? = some n) (h : n <:+ p.text) :
    ∃ init, Text.splitAt '/' p.text = init ++ [n] := by
  obtain ⟨lead, hlead⟩ := h
  have hname := isName_of_fileName? hn
  obtain ⟨init, last, hsplit, hlast⟩ := Text.splitAt_eq_concat '/' lead
  have hpieces : Text.splitAt '/' p.text = init ++ [last ++ n] := by
    rw [← hlead]
    exact Text.splitAt_append_of_notMem hname.2.2.2 hsplit
  -- What is in front of the name in its piece would be part of the file name.
  have hwhole := fileName?_of_last (hname.prepend hlast) hpieces
  have hall : last ++ n = n := Option.some.inj (hwhole.symm.trans hn)
  rw [hall] at hpieces
  exact ⟨init, hpieces⟩

end StyleVars.Path

namespace StyleVars.Resolve

open StyleVars.Path (IsName)

/-! ## The extension written out -/

section Completed

variable {reference name e : Text}

/-- A reference keeps its directory, and its name, when the extension is written out behind it. -/
theorem written_out (hends : name <:+ reference)
    (hname : (Path.mk reference).fileName? = some name) (he : '/' ∉ e) :
    (Path.mk (reference ++ '.' :: e)).directory = (Path.mk reference).directory ∧
      (Path.mk (reference ++ '.' :: e)).fileName? = some (name ++ '.' :: e) := by
  have hslash : '/' ∉ '.' :: e := by simp [he]
  have hn := Path.isName_of_fileName? hname
  have hwritten := hn.append hslash
  obtain ⟨init, hpieces⟩ := Path.exists_splitAt_of_suffix hname hends
  have hlonger : Text.splitAt '/' (Path.mk (reference ++ '.' :: e)).text =
      init ++ [name ++ '.' :: e] := Text.splitAt_append_of_notMem hslash hpieces
  exact ⟨Path.directory_of_last hwritten hn hlonger hpieces,
    Path.fileName?_of_last hwritten hlonger⟩

theorem extension?_written_out (hn : IsName name) (he : '/' ∉ e) :
    (Path.mk (name ++ '.' :: e)).extension? ≠ none := by
  have hwritten : IsName (name ++ '.' :: e) := hn.append (by simp [he])
  rw [Ne, Path.extension?_eq_none (Path.fileName?_name hwritten), not_not,
    List.tail_append_of_ne_nil hn.1]
  exact List.mem_append_right _ List.mem_cons_self

/-- Both spellings ask for the same name, the one with the extension. -/
theorem baseName_written_out (hends : name <:+ reference)
    (hname : (Path.mk reference).fileName? = some name)
    (hnone : (Path.mk name).extension? = none) (he : '/' ∉ e) :
    baseName reference ('.' :: e) = name ++ '.' :: e ∧
      baseName (reference ++ '.' :: e) ('.' :: e) = name ++ '.' :: e := by
  have hn := Path.isName_of_fileName? hname
  constructor
  · rw [baseName_eq hname, if_pos hnone]
  · rw [baseName_eq (written_out hends hname he).2, if_neg (extension?_written_out hn he)]

theorem pair_written_out (hends : name <:+ reference)
    (hname : (Path.mk reference).fileName? = some name)
    (hnone : (Path.mk name).extension? = none) (he : '/' ∉ e) (base : Path) :
    pair (reference ++ '.' :: e) ('.' :: e) base = pair reference ('.' :: e) base := by
  obtain ⟨hplain, hwritten⟩ := baseName_written_out hends hname hnone he
  unfold pair
  rw [(written_out hends hname he).1, hplain, hwritten]

/-- A reference whose name has no extension and the same reference with the default extension
written out ask for the same name, which has the extension once, and have the same candidates. So on
every file system both lead to the same file, or both fail, with these candidates. -/
theorem candidates_completed (hends : name <:+ reference)
    (hname : (Path.mk reference).fileName? = some name)
    (hnone : (Path.mk name).extension? = none) (he : '/' ∉ e) (importing : Path)
    (roots : List Path) :
    let extension := '.' :: e
    let cs := candidates reference importing roots extension
    let written := candidates (reference ++ extension) importing roots extension
    baseName reference extension = name ++ extension ∧
    baseName (reference ++ extension) extension = name ++ extension ∧
    written = cs ∧
    ∀ fs, (∃ p, first fs reference cs = .ok p ∧
        first fs (reference ++ extension) written = .ok p) ∨
      (first fs reference cs = .error (.notFound reference cs) ∧
        first fs (reference ++ extension) written =
          .error (.notFound (reference ++ extension) cs)) := by
  intro extension cs written
  obtain ⟨hplain, hwritten⟩ := baseName_written_out hends hname hnone he
  have hsame : written = cs :=
    List.flatMap_congr fun base _ => pair_written_out hends hname hnone he base
  refine ⟨hplain, hwritten, hsame, fun fs => ?_⟩
  rw [hsame]
  rcases exists_earliestFile_or_noFile fs cs with ⟨i, p, hfile⟩ | hfile
  · exact .inl ⟨p, hfile.first_eq reference, hfile.first_eq _⟩
  · exact .inr ⟨hfile.first_eq reference, hfile.first_eq _⟩

/-- A hidden file above the importing one, and an extension of two parts. -/
theorem candidates_completed_hidden :
    let reference := "..//.tokens".toList
    let name := ".tokens".toList
    let e := "module.scss".toList
    name <:+ reference ∧ (Path.mk reference).fileName? = some name ∧
      (Path.mk name).extension? = none ∧ '/' ∉ e ∧
      candidates "..//.tokens.module.scss".toList (.ofString "a/main.scss") [.ofString "/lib"]
          ".module.scss".toList =
        candidates reference (.ofString "a/main.scss") [.ofString "/lib"]
          ".module.scss".toList := by
  intro reference name e
  have hends : name <:+ reference := ⟨"..//".toList, rfl⟩
  have hname : (Path.mk reference).fileName? = some name := by decide
  have hnone : (Path.mk name).extension? = none := by decide
  have he : '/' ∉ e := by decide
  obtain ⟨-, -, hsame, -⟩ := candidates_completed hends hname hnone he
    (.ofString "a/main.scss") [.ofString "/lib"]
  exact ⟨hends, hname, hnone, he, hsame⟩

end Completed

end StyleVars.Resolve
