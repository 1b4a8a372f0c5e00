import StyleVars.Proofs.Path.Place
import StyleVars.Proofs.Session.Outcome

/-
  What a session hands to the compiler. The program and the search roots are made from the entry
  point's path from the root, and that path spells the entry point's location; so every spelling
  that leads there from the working directory makes the same session. The search roots are the given
  ones, with the entry point's directory behind them if it is not among them, and so the directory
  is not added a second time (`request_of_location`).
-/

namespace StyleVars.Session

open StyleVars.Path (locationIn endpoint)

/-! ## Search roots -/

/-- The entry point lies in this directory, and no search root has its components. -/
def IsAdded (entry : Path) (roots : List Path) (dir : Path) : Prop :=
  entry.parent? = some dir ∧ ∀ root ∈ roots, root.components ≠ dir.components

variable {entry dir : Path} {roots : List Path}

theorem searchRoots_of_isAdded (h : IsAdded entry roots dir) :
    searchRoots entry roots = roots ++ [dir] := by
  obtain ⟨hparent, hroots⟩ := h
  have hnot : ¬ dir.isIn roots = true := by
    rw [Path.isIn_iff]
    rintro ⟨root, hroot, hsame⟩
    exact hroots root hroot hsame
  unfold searchRoots
  rw [hparent]
  exact if_neg hnot

theorem searchRoots_of_not_isAdded (h : ∀ dir, ¬ IsAdded entry roots dir) :
    searchRoots entry roots = roots := by
  unfold searchRoots
  split
  · rfl
  next dir hparent =>
    refine if_pos (Path.isIn_iff.mpr ?_)
    by_contra hnone
    exact h dir ⟨hparent, fun root hroot hsame => hnone ⟨root, hroot, hsame⟩⟩

/-- A search root is a given one or the directory the entry point lies in. -/
theorem mem_searchRoots {root : Path} (h : root ∈ searchRoots entry roots) :
    root ∈ roots ∨ entry.parent? = some root := by
  unfold searchRoots at h
  split at h
  · exact .inl h
  next hparent =>
    split at h
    · exact .inl h
    · rcases List.mem_append.mp h with h | h
      · exact .inl h
      · rw [List.mem_singleton.mp h]
        exact .inr hparent

/-- A directory that was added is among the search roots from then on. -/
theorem searchRoots_again (entry : Path) (roots : List Path) :
    searchRoots entry (searchRoots entry roots) = searchRoots entry roots := by
  refine searchRoots_of_not_isAdded fun dir hadded => ?_
  by_cases h : IsAdded entry roots dir
  · refine hadded.2 dir ?_ rfl
    rw [searchRoots_of_isAdded h]
    exact List.mem_append_right roots List.mem_cons_self
  · have hgiven : searchRoots entry roots = roots := by
      refine searchRoots_of_not_isAdded fun other hother => h ?_
      have hparent : some other = some dir := hother.1.symm.trans hadded.1
      obtain rfl := Option.some.inj hparent
      exact hother
    rw [hgiven] at hadded
    exact h hadded

/-! ## Spellings of the entry point -/

variable {fs : FileSystem} {p q : Path}

/-- Entry points that lead to the same place from the working directory, however they are spelled,
make the same session: the compiler gets the same program and the same search roots, with the same
hook, and the session ends alike. The search roots are the given ones, unchanged and in order, and
behind them the entry point's directory exactly if it has one and no given root is the same by its
components; only the root has none, and any other is where the location without its last name is. A
session that is given the list of another adds nothing to it. -/
theorem request_of_location (hworking : fs.workingDirectory.isAbsolute = true)
    (hplace : locationIn fs.workingDirectory p = locationIn fs.workingDirectory q)
    (compiler : Compiler) (token : Text) (options : Options) :
    let location := locationIn fs.workingDirectory p
    let place := p.absolute fs.workingDirectory
    let handed := request token options place
    request token options (q.absolute fs.workingDirectory) = handed ∧
    compiled fs compiler token options q = (compiler.render (Interceptor.answer fs) handed
      (Interceptor.start token (optionsFor place options))).1 ∧
    run fs compiler token options q = run fs compiler token options p ∧
    (∀ dir, IsAdded place options.searchRoots dir →
      handed.searchRoots = options.searchRoots ++ [dir]) ∧
    ((∀ dir, ¬ IsAdded place options.searchRoots dir) →
      handed.searchRoots = options.searchRoots) ∧
    (place.parent? = none ↔ location = []) ∧
    (∀ dir, place.parent? = some dir → ∀ w, endpoint w dir = location.dropLast) ∧
    (request token { options with searchRoots := handed.searchRoots } place).searchRoots =
      handed.searchRoots := by
  intro location place handed
  have hsame : q.absolute fs.workingDirectory = place :=
    (Path.absolute_eq_iff hworking).mpr hplace.symm
  have hcompiled : compiled fs compiler token options q =
      compiled fs compiler token options p := by
    unfold compiled
    rw [hsame]
  have hnames : ∀ n ∈ location, Path.IsName n := Path.isName_of_mem_locationIn hworking p
  have hparent : place.parent? = if location = [] then none else
      some (Path.Route.fromRoot location.dropLast).path := by
    rw [← Path.parent?_fromRoot hnames, ← Path.absolute_eq hworking]
  refine ⟨by rw [hsame], hcompiled, run_congr hsame hcompiled,
    fun dir h => searchRoots_of_isAdded h, searchRoots_of_not_isAdded, ?_, ?_,
    searchRoots_again place options.searchRoots⟩
  · rw [hparent]
    split
    next hroot => exact iff_of_true rfl hroot
    next hroot => exact iff_of_false (Option.some_ne_none _) hroot
  · intro dir hdir w
    rw [hparent] at hdir
    split at hdir
    · cases hdir
    · obtain rfl := Option.some.inj hdir
      exact Path.endpoint_fromRoot (fun n hn => hnames n (List.dropLast_subset location hn)) w

/-- Two spellings of one file; the root that leads to its directory is spelled with other
components, so the directory is added. -/
theorem request_of_location_spelled :
    let fs : FileSystem :=
      ⟨.ofString "/w/x", fun _ => false, fun _ => false, fun _ => .error .notFound⟩
    let options : Options := { searchRoots := [.ofString "/w/b/../a", .ofString "lib"] }
    let p := Path.ofString "../a//main.scss/."
    let q := Path.ofString "/w/./a/b/../main.scss"
    let handed := request Marker.someToken options (p.absolute fs.workingDirectory)
    fs.workingDirectory.isAbsolute = true ∧
      locationIn fs.workingDirectory p = locationIn fs.workingDirectory q ∧
      request Marker.someToken options (q.absolute fs.workingDirectory) = handed ∧
      handed.searchRoots = [.ofString "/w/b/../a", .ofString "lib", .ofString "/w/a"] := by
  intro fs options p q handed
  have hworking : fs.workingDirectory.isAbsolute = true := by decide
  have hplace : locationIn fs.workingDirectory p = locationIn fs.workingDirectory q := by decide
  have hadded : IsAdded (p.absolute fs.workingDirectory) options.searchRoots (.ofString "/w/a") :=
    ⟨by decide, by decide⟩
  obtain ⟨hrequest, -, -, hroots, -⟩ := request_of_location hworking hplace
    (Compiler.scripted [] (.ok [])) Marker.someToken options
  exact ⟨hworking, hplace, hrequest, hroots _ hadded⟩

end StyleVars.Session
