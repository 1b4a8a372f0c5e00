import StyleVars.Proofs.Path.Parent
import StyleVars.Proofs.Path.Reference
import StyleVars.Proofs.Resolve.Candidates
import StyleVars.Proofs.Resolve.Priority

/-
  What candidates look like. The name a reference asks for is a file name with or without the
  extension behind it (`isName_baseName`), and every candidate is such a name in a directory, in
  normal form; so nothing of the name is lost when the candidate is normalized, and what is in front
  of it denotes the directory (`candidates_shape`).
-/

namespace StyleVars.Resolve

open StyleVars.Path (IsName)

/-! ## The names asked for -/

theorem isName_partial {n : Text} (hn : IsName n) : IsName (Path.partialMark ++ n) :=
  hn.prepend (by decide)

theorem isName_baseName {reference name extension : Text}
    (h : (Path.mk reference).fileName? = some name) (he : '/' ∉ extension) :
    IsName (baseName reference extension) := by
  have hname := Path.isName_of_fileName? h
  rw [baseName_eq h]
  split
  · exact hname.append he
  · exact hname

/-! ## Candidates -/

variable {reference extension : Text} {importing : Path} {roots : List Path}

theorem mem_candidates {p : Path} (h : p ∈ candidates reference importing roots extension) :
    ∃ base name, p = asked reference base name := by
  obtain ⟨base, -, hp⟩ := List.mem_flatMap.mp h
  rcases List.mem_cons.mp hp with rfl | hp
  · exact ⟨base, _, rfl⟩
  · exact ⟨base, _, List.mem_singleton.mp hp⟩

/-- The candidates of an absolute reference lie beside the file it names, under every base. -/
theorem asked_of_isAbsolute {name : Text} (h : (Path.mk reference).isAbsolute = true)
    (hname : (Path.mk reference).fileName? = some name) (base : Path) (n : Text) :
    asked reference base n = sibling ⟨reference⟩ n := by
  unfold asked sibling
  rw [join_directory h hname base]

theorem endpoint_folder_join (w : List Text) (reference : Text) (base : Path) :
    Path.endpoint w (base.join (Path.mk reference).directory).folder =
      Path.endpoint (Path.endpoint w base) (Path.mk reference).directory := by
  rw [Path.endpoint_folder, Path.endpoint_join]

/-- There are two candidates for the importing directory and for each search root, all in normal
form. Both lie in the directory that the reference's own directory leads to from there, and they are
the partial and the plain file of the name asked for: the reference's, completed with the extension
if no dot stands behind its first character. The candidates of an absolute reference are the same
two files for every importing file and all search roots. -/
theorem candidates_shape {name : Text} (hname : (Path.mk reference).fileName? = some name)
    (hextension : '/' ∉ extension) (importing : Path) (roots : List Path) :
    let b := if (Path.mk name).extension? = none then name ++ extension else name
    let cs := candidates reference importing roots extension
    ((Path.mk name).extension? = none ↔ '.' ∉ name.tail) ∧
    cs.length = 2 * (roots.length + 1) ∧
    (∀ p ∈ cs, p.normalize = p) ∧
    (∀ k base, (importing.directory :: roots)[k]? = some base →
      ∃ p q folder, cs[2 * k]? = some p ∧ cs[2 * k + 1]? = some q ∧
        p.parent? = some folder ∧ q.parent? = some folder ∧
        (∀ w, Path.endpoint w folder =
          Path.endpoint (Path.endpoint w base) (Path.mk reference).directory) ∧
        p.fileName? = some ('_' :: b) ∧ q.fileName? = some b) ∧
    ((Path.mk reference).isAbsolute = true →
      ∃ p q, ∀ others otherRoots k, k ≤ otherRoots.length →
        (candidates reference others otherRoots extension)[2 * k]? = some p ∧
        (candidates reference others otherRoots extension)[2 * k + 1]? = some q) := by
  intro b cs
  have hb : b = baseName reference extension := (baseName_eq hname extension).symm
  have hplain : IsName b := by
    rw [hb]
    exact isName_baseName hname hextension
  have hpartial : IsName ('_' :: b) := isName_partial hplain
  have hat {place base : Path} {bases : List Path} {k : Nat}
      (h : (place.directory :: bases)[k]? = some base) :
      (candidates reference place bases extension)[2 * k]? =
          some (asked reference base ('_' :: b)) ∧
        (candidates reference place bases extension)[2 * k + 1]? =
          some (asked reference base b) := by
    rw [hb]
    exact getElem?_under h
  refine ⟨?_, length_under reference extension _, ?_, ?_, ?_⟩
  · exact Path.extension?_eq_none (Path.fileName?_name (Path.isName_of_fileName? hname))
  · intro p hp
    obtain ⟨base, n, rfl⟩ := mem_candidates hp
    exact Path.normalize_normalize _
  · intro k base hk
    let dir := base.join (Path.mk reference).directory
    refine ⟨asked reference base ('_' :: b), asked reference base b, dir.folder, (hat hk).1,
      (hat hk).2, ?_, ?_, ?_, ?_, ?_⟩
    · exact Path.parent?_normalize_join dir hpartial
    · exact Path.parent?_normalize_join dir hplain
    · exact fun w => endpoint_folder_join w reference base
    · exact Path.fileName?_normalize_join dir hpartial
    · exact Path.fileName?_normalize_join dir hplain
  · intro habsolute
    refine ⟨sibling ⟨reference⟩ ('_' :: b), sibling ⟨reference⟩ b, ?_⟩
    intro others otherRoots k hk
    have hlt : k < (others.directory :: otherRoots).length := Nat.lt_succ_of_le hk
    have hpair := hat (List.getElem?_eq_getElem hlt)
    rwa [asked_of_isAbsolute habsolute hname, asked_of_isAbsolute habsolute hname] at hpair

/-- A hidden file's name, spelled with a separator behind it, in the directory above the bases. -/
theorem candidates_shape_hidden :
    (Path.mk "../.tokens/".toList).fileName? = some ".tokens".toList ∧ '/' ∉ ".scss".toList ∧
      ∃ p q folder,
        (candidates "../.tokens/".toList ⟨"a/main.scss".toList⟩ [⟨"/".toList⟩, ⟨"../b".toList⟩]
          ".scss".toList)[4]? = some p ∧
        (candidates "../.tokens/".toList ⟨"a/main.scss".toList⟩ [⟨"/".toList⟩, ⟨"../b".toList⟩]
          ".scss".toList)[5]? = some q ∧
        p.parent? = some folder ∧ q.parent? = some folder ∧
        (∀ w, Path.endpoint w folder =
          Path.endpoint (Path.endpoint w ⟨"../b".toList⟩) (Path.mk "../.tokens/".toList).directory) ∧
        p.fileName? = some "_.tokens.scss".toList ∧ q.fileName? = some ".tokens.scss".toList := by
  have hname : (Path.mk "../.tokens/".toList).fileName? = some ".tokens".toList := by decide
  have hextension : '/' ∉ ".scss".toList := by decide
  obtain ⟨-, -, -, hpairs, -⟩ := candidates_shape hname hextension ⟨"a/main.scss".toList⟩
    [⟨"/".toList⟩, ⟨"../b".toList⟩]
  exact ⟨hname, hextension, hpairs 2 ⟨"../b".toList⟩ rfl⟩

end StyleVars.Resolve
