import StyleVars.Resolve
import StyleVars.Proofs.Path.Directory
import StyleVars.Proofs.Path.Normalize

/-
  What candidates depend on. They are in normal form, so the importing file counts by its components
  and not by its spelling (`candidates_congr`). The directory of an absolute reference is absolute,
  and an absolute path replaces any base it is joined to: all pairs of candidates are the same,
  beside the file the reference names (`find?_candidates_absolute`). When that name has an
  extension, the plain candidate is the normal form of the reference (`sibling_fileName`).
-/

namespace StyleVars.Resolve

/-- The normal path of a name beside a place. -/
def sibling (place : Path) (name : Text) : Path := (place.directory.join ⟨name⟩).normalize

/-- The same base directories lead to the same candidates. -/
theorem pair_congr (reference extension : Text) {base other : Path}
    (h : base.same other = true) :
    pair reference extension base = pair reference extension other := by
  have hdir := Path.same_join h (Path.mk reference).directory
  have hcandidate (name : Path) :
      ((base.join (Path.mk reference).directory).join name).normalize =
        ((other.join (Path.mk reference).directory).join name).normalize :=
    Path.normalize_congr (Path.same_iff.mp (Path.same_join hdir name))
  unfold pair
  dsimp only
  rw [hcandidate, hcandidate]

/-- The spelling of the importing file does not matter. -/
theorem candidates_congr (reference : Text) {importing other : Path}
    (h : importing.same other = true) (roots : List Path) (extension : Text) :
    candidates reference importing roots extension =
      candidates reference other roots extension := by
  unfold candidates
  rw [List.flatMap_cons, List.flatMap_cons,
    pair_congr reference extension (Path.same_directory h)]

theorem find?_flatMap_const {α β : Type} {f : α → List β} {as : List α} (hne : as ≠ [])
    {bs : List β} (hf : ∀ a ∈ as, f a = bs) (p : β → Bool) :
    (as.flatMap f).find? p = bs.find? p := by
  obtain ⟨a, as, rfl⟩ := List.exists_cons_of_ne_nil hne
  rw [List.flatMap_cons, hf a List.mem_cons_self, List.find?_append]
  cases h : bs.find? p with
  | some b => rfl
  | none =>
    rw [Option.none_or, List.find?_eq_none]
    intro b hb
    obtain ⟨a', ha', hb⟩ := List.mem_flatMap.mp hb
    rw [hf a' (List.mem_cons_of_mem a ha')] at hb
    exact List.find?_eq_none.mp h b hb

/-! ## The name asked for -/

section Named

variable {reference n : Text}

theorem baseName_eq (hn : (Path.mk reference).fileName? = some n) (extension : Text) :
    baseName reference extension =
      if (Path.mk n).extension? = none then n ++ extension else n := by
  unfold baseName
  rw [hn, Option.getD_some]
  simp only [Option.isNone_iff_eq_none]

theorem baseName_of_extension (hn : (Path.mk reference).fileName? = some n)
    (h : (Path.mk reference).extension? ≠ none) (extension : Text) :
    baseName reference extension = n := by
  have hextension : (Path.mk n).extension? = (Path.mk reference).extension? := by
    unfold Path.extension?
    rw [hn, Path.fileName?_name (Path.isName_of_fileName? hn)]
  rw [baseName_eq hn, hextension, if_neg h]

/-! ## Absolute references -/

/-- The directory of an absolute reference is absolute, so the base directory does not matter. -/
theorem join_directory (h : (Path.mk reference).isAbsolute = true)
    (hn : (Path.mk reference).fileName? = some n) (base : Path) :
    base.join (Path.mk reference).directory = (Path.mk reference).directory :=
  Path.join_of_isAbsolute base (Path.isAbsolute_directory h hn)

/-- Importing file and search roots play no part. -/
theorem find?_candidates_absolute (h : (Path.mk reference).isAbsolute = true)
    (hn : (Path.mk reference).fileName? = some n) (importing : Path) (roots : List Path)
    (extension : Text) (p : Path → Bool) :
    (candidates reference importing roots extension).find? p =
      [sibling ⟨reference⟩ (Path.partialMark ++ baseName reference extension),
        sibling ⟨reference⟩ (baseName reference extension)].find? p := by
  refine find?_flatMap_const (List.cons_ne_nil importing.directory roots) (fun base _ => ?_) p
  unfold pair sibling
  rw [join_directory h hn base]

end Named

/-- A path is beside itself under its own name. -/
theorem sibling_fileName {place : Path} {n : Text} (h : place.fileName? = some n) :
    sibling place n = place.normalize :=
  Path.normalize_congr (Path.same_iff.mp (Path.same_join_fileName h))

end StyleVars.Resolve
