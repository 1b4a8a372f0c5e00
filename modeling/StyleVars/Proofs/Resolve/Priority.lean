import StyleVars.Resolve
import StyleVars.Session

/-
  Which file a reference leads to. Candidates have positions: the pair of the importing directory,
  then the pair of each search root, the partial file before the plain one (`getElem?_candidates`).
  The earliest candidate that is a file is taken (`first_cases`), and search roots that are added
  behind the others only add candidates at the end; so they are looked at when nothing else is a
  file, and never before (`first_candidates_append`).
-/

namespace StyleVars.Resolve

/-! ## Positions of candidates -/

/-- The normal path of a name in a reference's directory under a base. -/
def asked (reference : Text) (base : Path) (name : Text) : Path :=
  ((base.join (Path.mk reference).directory).join ⟨name⟩).normalize

/-- The candidates under several bases, two for each. -/
def under (reference extension : Text) (bases : List Path) : List Path :=
  bases.flatMap (pair reference extension)

theorem under_cons (reference extension : Text) (base : Path) (bases : List Path) :
    under reference extension (base :: bases) =
      asked reference base (Path.partialMark ++ baseName reference extension) ::
        asked reference base (baseName reference extension) :: under reference extension bases :=
  rfl

theorem length_under (reference extension : Text) (bases : List Path) :
    (under reference extension bases).length = 2 * bases.length := by
  induction bases with
  | nil => rfl
  | cons base bases ih =>
    rw [under_cons, List.length_cons, List.length_cons, ih, List.length_cons]
    omega

/-- The candidates under a base stand behind those under the bases before it. -/
theorem getElem?_under {reference extension : Text} {bases : List Path} {k : Nat} {base : Path}
    (h : bases[k]? = some base) :
    (under reference extension bases)[2 * k]? =
        some (asked reference base (Path.partialMark ++ baseName reference extension)) ∧
      (under reference extension bases)[2 * k + 1]? =
        some (asked reference base (baseName reference extension)) := by
  induction bases generalizing k with
  | nil => cases h
  | cons b bases ih =>
    rw [under_cons]
    cases k with
    | zero =>
      obtain rfl := Option.some.inj h
      exact ⟨rfl, rfl⟩
    | succ k => exact ih h

theorem candidates_append (reference : Text) (importing : Path) (roots added : List Path)
    (extension : Text) :
    candidates reference importing (roots ++ added) extension =
      candidates reference importing roots extension ++ under reference extension added := by
  unfold candidates under
  rw [← List.cons_append, List.flatMap_append]

/-! ## The earliest file -/

/-- The path stands at this position and is a file, and no earlier one is. -/
structure EarliestFile (fs : FileSystem) (cs : List Path) (i : Nat) (p : Path) : Prop where
  at_position : cs[i]? = some p
  isFile : fs.isFile p = true
  before : ∀ j < i, ∀ q, cs[j]? = some q → fs.isFile q = false

/-- None of the paths is a file. -/
def NoFile (fs : FileSystem) (cs : List Path) : Prop := ∀ q ∈ cs, fs.isFile q = false

variable {fs : FileSystem} {cs ds : List Path} {i : Nat} {p : Path}

theorem EarliestFile.first_eq (h : EarliestFile fs cs i p) (reference : Text) :
    first fs reference cs = .ok p := by
  have hfind : cs.find? fs.isFile = some p := by
    obtain ⟨hi, hp⟩ := List.getElem?_eq_some_iff.mp h.at_position
    refine List.find?_eq_some_iff_getElem.mpr ⟨h.isFile, i, hi, hp, fun j hj => ?_⟩
    rw [h.before j hj _ (List.getElem?_eq_getElem (Nat.lt_trans hj hi))]
    rfl
  unfold first
  rw [hfind]

theorem NoFile.first_eq (h : NoFile fs cs) (reference : Text) :
    first fs reference cs = .error (.notFound reference cs) := by
  have hfind : cs.find? fs.isFile = none :=
    List.find?_eq_none.mpr fun q hq => by simp [h q hq]
  unfold first
  rw [hfind]

/-- There is an earliest file, or no file. -/
theorem exists_earliestFile_or_noFile (fs : FileSystem) (cs : List Path) :
    (∃ i p, EarliestFile fs cs i p) ∨ NoFile fs cs := by
  cases hfind : cs.find? fs.isFile with
  | none =>
    refine .inr fun q hq => ?_
    simpa using List.find?_eq_none.mp hfind q hq
  | some p =>
    obtain ⟨hfile, i, hi, hp, hbefore⟩ := List.find?_eq_some_iff_getElem.mp hfind
    refine .inl ⟨i, p, List.getElem?_eq_some_iff.mpr ⟨hi, hp⟩, hfile, fun j hj q hq => ?_⟩
    obtain ⟨_, rfl⟩ := List.getElem?_eq_some_iff.mp hq
    simpa using hbefore j hj

/-- Candidates at the end do not come before an earliest file. -/
theorem EarliestFile.append (h : EarliestFile fs cs i p) (ds : List Path) :
    EarliestFile fs (cs ++ ds) i p := by
  obtain ⟨hi, -⟩ := List.getElem?_eq_some_iff.mp h.at_position
  refine ⟨by rw [List.getElem?_append_left hi, h.at_position], h.isFile, fun j hj q hq => ?_⟩
  rw [List.getElem?_append_left (Nat.lt_trans hj hi)] at hq
  exact h.before j hj q hq

/-- Candidates that are no files are passed over. -/
theorem NoFile.earliestFile_append (h : NoFile fs cs) (hd : EarliestFile fs ds i p) :
    EarliestFile fs (cs ++ ds) (cs.length + i) p := by
  refine ⟨?_, hd.isFile, fun j hj q hq => ?_⟩
  · rw [List.getElem?_append_right (Nat.le_add_right _ _), Nat.add_sub_cancel_left,
      hd.at_position]
  · by_cases hlt : j < cs.length
    · rw [List.getElem?_append_left hlt] at hq
      exact h q (List.mem_of_getElem? hq)
    · have hle := Nat.le_of_not_lt hlt
      rw [List.getElem?_append_right hle] at hq
      exact hd.before (j - cs.length) (by omega) q hq

theorem NoFile.append (h : NoFile fs cs) (hd : NoFile fs ds) : NoFile fs (cs ++ ds) := by
  intro q hq
  rcases List.mem_append.mp hq with hq | hq
  · exact h q hq
  · exact hd q hq

/-! ## Search roots behind others -/

/-- The entry point's directory comes behind the given search roots, if it comes at all. -/
theorem exists_searchRoots_eq (entry : Path) (roots : List Path) :
    ∃ added, Session.searchRoots entry roots = roots ++ added := by
  unfold Session.searchRoots
  split
  · exact ⟨[], (List.append_nil roots).symm⟩
  · split
    · exact ⟨[], (List.append_nil roots).symm⟩
    · exact ⟨_, rfl⟩

/-- The candidates are a partial and a plain file for the importing directory and then for each
search root, and the earliest that is a file is taken, whatever search roots come behind, the entry
point's directory among them. If none is a file, the roots behind decide in the same way: the
earliest file among their candidates is taken, and if there is none either, the failure names the
reference and all candidates in their order. -/
theorem first_candidates_append (fs : FileSystem) (reference : Text) (importing : Path)
    (extension : Text) (roots added : List Path) :
    let name := baseName reference extension
    let cs := candidates reference importing roots extension
    let all := candidates reference importing (roots ++ added) extension
    let behind := under reference extension added
    (cs.length = 2 * (roots.length + 1) ∧
      ∀ k base, (importing.directory :: roots)[k]? = some base →
        cs[2 * k]? = some (asked reference base (Path.partialMark ++ name)) ∧
        cs[2 * k + 1]? = some (asked reference base name)) ∧
    all = cs ++ behind ∧
    ((∃ i p, EarliestFile fs cs i p ∧ first fs reference cs = .ok p ∧
        first fs reference all = .ok p ∧
        ∀ entry, first fs reference (candidates reference importing
          (Session.searchRoots entry roots) extension) = .ok p) ∨
      (NoFile fs cs ∧ first fs reference cs = .error (.notFound reference cs) ∧
        ((∃ i p, EarliestFile fs behind i p ∧ first fs reference all = .ok p) ∨
          (NoFile fs behind ∧
            first fs reference all = .error (.notFound reference all))))) := by
  intro name cs all behind
  have hall : all = cs ++ behind := candidates_append reference importing roots added extension
  refine ⟨⟨length_under reference extension _, fun k base h => getElem?_under h⟩, hall, ?_⟩
  rcases exists_earliestFile_or_noFile fs cs with ⟨i, p, hfile⟩ | hnone
  · refine .inl ⟨i, p, hfile, hfile.first_eq reference, ?_, fun entry => ?_⟩
    · rw [hall]
      exact (hfile.append behind).first_eq reference
    · obtain ⟨last, hlast⟩ := exists_searchRoots_eq entry roots
      rw [hlast, candidates_append]
      exact (hfile.append _).first_eq reference
  · refine .inr ⟨hnone, hnone.first_eq reference, ?_⟩
    rw [hall]
    rcases exists_earliestFile_or_noFile fs behind with ⟨i, p, hfile⟩ | hnone'
    · exact .inl ⟨i, p, hfile, (hnone.earliestFile_append hfile).first_eq reference⟩
    · exact .inr ⟨hnone', (hnone.append hnone').first_eq reference⟩

end StyleVars.Resolve
