import StyleVars.Proofs.Session.Request
import StyleVars.Watch

/-
  The directories that are watched, beside those a session searches. A session's search roots are
  the given ones and the parent of the entry point's path from the root; watched are the directory
  of the entry point as it is spelled and the given roots that exist. The list grows by one root
  after the other (`Listed.step`), so it is the existing roots in their order, each path once
  (`exists_listed`). Spelled or from the root, the entry point lies in the same place
  (`parent?_absolute`), so nothing that is searched goes unwatched (`directories_cover`).
-/

namespace StyleVars.Watch

open StyleVars.Path (locationIn)

/-! ## The list of directories -/

/-- One search root more: it is taken up if it exists and is not in the list yet. -/
def addRoot (fs : FileSystem) (ds : List Path) (root : Path) : List Path :=
  if fs.isDirectory root && !root.isIn ds then ds ++ [root] else ds

theorem directories_concat (fs : FileSystem) (entry : Path) (roots : List Path) (root : Path) :
    directories fs entry (roots ++ [root]) = addRoot fs (directories fs entry roots) root := by
  unfold directories
  rw [List.foldl_append]
  rfl

/-- These of the roots are watched besides a first directory: some that exist, in the order of the
roots, no path twice, and none that exists is missing. -/
structure Listed (fs : FileSystem) (first : Path) (roots listed : List Path) : Prop where
  sublist : listed.Sublist roots
  isDirectory : ∀ root ∈ listed, fs.isDirectory root = true
  distinct : (first :: listed).Pairwise fun p q => ¬ p.same q = true
  isIn : ∀ root ∈ roots, fs.isDirectory root = true → root.isIn (first :: listed) = true

variable {fs : FileSystem} {first entry : Path} {roots listed : List Path}

/-- A root that does not exist or is in the list already changes nothing. -/
theorem Listed.skip (h : Listed fs first roots listed) {root : Path}
    (hroot : fs.isDirectory root = true → root.isIn (first :: listed) = true) :
    Listed fs first (roots ++ [root]) listed where
  sublist := h.sublist.trans (List.sublist_append_left roots [root])
  isDirectory := h.isDirectory
  distinct := h.distinct
  isIn other hother hexists := by
    rcases List.mem_append.mp hother with hother | hother
    · exact h.isIn other hother hexists
    · rw [List.mem_singleton.mp hother] at hexists ⊢
      exact hroot hexists

/-- A root that exists and is new comes last. -/
theorem Listed.add (h : Listed fs first roots listed) {root : Path}
    (hexists : fs.isDirectory root = true) (hnew : ¬ root.isIn (first :: listed) = true) :
    Listed fs first (roots ++ [root]) (listed ++ [root]) where
  sublist := h.sublist.append (List.Sublist.refl [root])
  isDirectory other hother := by
    rcases List.mem_append.mp hother with hother | hother
    · exact h.isDirectory other hother
    · rwa [List.mem_singleton.mp hother]
  distinct := by
    rw [← List.cons_append, List.pairwise_append]
    refine ⟨h.distinct, List.pairwise_singleton _ _, fun p hp q hq hsame => ?_⟩
    obtain rfl := List.mem_singleton.mp hq
    exact hnew (Path.isIn_iff.mpr ⟨p, hp, Path.same_iff.mp hsame⟩)
  isIn other hother hdirectory := by
    rw [Path.isIn_iff]
    rcases List.mem_append.mp hother with hother | hother
    · obtain ⟨q, hq, hsame⟩ := Path.isIn_iff.mp (h.isIn other hother hdirectory)
      exact ⟨q, List.mem_append_left [root] hq, hsame⟩
    · exact ⟨root, by simp, by rw [List.mem_singleton.mp hother]⟩

/-- Whatever the next root is, the list grows into that of the roots with it. -/
theorem Listed.step (h : Listed fs first roots listed) (root : Path) :
    ∃ more, addRoot fs (first :: listed) root = first :: more ∧
      Listed fs first (roots ++ [root]) more := by
  by_cases hadded : fs.isDirectory root = true ∧ ¬ root.isIn (first :: listed) = true
  · exact ⟨listed ++ [root], if_pos (by simpa using hadded), h.add hadded.1 hadded.2⟩
  · refine ⟨listed, if_neg (by simpa using hadded), h.skip fun hexists => ?_⟩
    by_contra hnew
    exact hadded ⟨hexists, hnew⟩

/-- Behind the entry point's directory the list holds those of the roots that are watched. -/
theorem exists_listed (fs : FileSystem) (entry : Path) (roots : List Path) :
    ∃ listed, directories fs entry roots = entryDirectory entry :: listed ∧
      Listed fs (entryDirectory entry) roots listed := by
  -- from the right, because a root is judged by what is listed before it
  induction roots using List.reverseRecOn with
  | nil =>
    exact ⟨[], rfl, .slnil, by simp, List.pairwise_singleton _ _, by simp⟩
  | append_singleton roots root ih =>
    obtain ⟨listed, hlisted, h⟩ := ih
    rw [directories_concat, hlisted]
    exact h.step root

/-! ## The directory of the entry point -/

/-- The empty directory and the dot that is watched in its place lead to the same place. -/
theorem locationIn_entryDirectory (entry w : Path) :
    locationIn w (entryDirectory entry) = locationIn w entry.directory := by
  unfold entryDirectory Path.directory
  cases entry.parent? with
  | none => rfl
  | some p =>
    dsimp only [Option.getD_some]
    split
    next hempty =>
      obtain rfl : p = ⟨[]⟩ := congrArg Path.mk (List.isEmpty_iff.mp hempty)
      rfl
    next => rfl

/-- From the root, the entry point lies in the directory that is watched. -/
theorem parent?_absolute {w : Path} (hw : w.isAbsolute = true) {n : Text}
    (hn : entry.fileName? = some n) :
    (entry.absolute w).parent? = some ((entryDirectory entry).absolute w) := by
  have hplace : locationIn w entry = locationIn w (entryDirectory entry) ++ [n] := by
    rw [locationIn_entryDirectory, Path.locationIn_of_fileName hn]
  rw [Path.absolute_eq hw, Path.parent?_fromRoot (Path.isName_of_mem_locationIn hw entry), hplace,
    if_neg (by simp), List.dropLast_concat, ← Path.absolute_eq hw]

/-! ## What a session searches -/

/-- Every search root of a session that exists leads where a directory leads that is watched. -/
theorem exists_watched (hworking : fs.workingDirectory.isAbsolute = true) {n : Text}
    (hn : entry.fileName? = some n) {root : Path}
    (hroot : root ∈ Session.searchRoots (entry.absolute fs.workingDirectory) roots)
    (hexists : fs.isDirectory root = true) :
    ∃ d ∈ directories fs entry roots,
      locationIn fs.workingDirectory d = locationIn fs.workingDirectory root := by
  obtain ⟨listed, hlisted, h⟩ := exists_listed fs entry roots
  rw [hlisted]
  rcases Session.mem_searchRoots hroot with hgiven | hparent
  · obtain ⟨d, hd, hsame⟩ := Path.isIn_iff.mp (h.isIn root hgiven hexists)
    exact ⟨d, hd, Path.locationIn_congr (Path.same_iff.mpr hsame) _⟩
  · rw [parent?_absolute hworking hn] at hparent
    obtain rfl := Option.some.inj hparent
    exact ⟨_, List.mem_cons_self, (Path.locationIn_absolute hworking _).symm⟩

/-- Every directory among the search roots that a session hands to the compiler is the same place as
one of those watched, when both are taken from the working directory and normalized. No path is
watched twice. The first one watched is the entry point's own directory, the parent of its path from
the root; the others are given roots that exist, in the given order, and every given root that
exists is among them or the same path as one that is watched. -/
theorem directories_cover (hworking : fs.workingDirectory.isAbsolute = true) {n : Text}
    (hn : entry.fileName? = some n) (token : Text) (options : Options) :
    let w := fs.workingDirectory
    let watched := directories fs entry options.searchRoots
    let handed := (Session.request token options (entry.absolute w)).searchRoots
    (∀ root ∈ handed, fs.isDirectory root = true →
      ∃ d ∈ watched, (w.join d).normalize = (w.join root).normalize) ∧
    watched.Pairwise (fun p q => ¬ p.same q = true) ∧
    ∃ listed, watched = entryDirectory entry :: listed ∧
      (entry.absolute w).parent? = some (w.join (entryDirectory entry)).normalize ∧
      listed.Sublist options.searchRoots ∧
      (∀ root ∈ listed, fs.isDirectory root = true) ∧
      ∀ root ∈ options.searchRoots, fs.isDirectory root = true → root.isIn watched = true := by
  intro w watched handed
  obtain ⟨listed, hlisted, h⟩ := exists_listed fs entry options.searchRoots
  have hwatched : watched = entryDirectory entry :: listed := hlisted
  refine ⟨fun root hroot hexists => ?_, hwatched ▸ h.distinct, listed, hwatched, ?_, h.sublist,
    h.isDirectory, hwatched ▸ h.isIn⟩
  · obtain ⟨d, hd, hplace⟩ := exists_watched hworking hn hroot hexists
    refine ⟨d, hd, ?_⟩
    rw [← Path.absolute_eq_normalize, ← Path.absolute_eq_normalize]
    exact (Path.absolute_eq_iff hworking).mpr hplace
  · rw [← Path.absolute_eq_normalize]
    exact parent?_absolute hworking hn

/-- Roots under several spellings, and an entry point whose directory is none of them: the session
adds it from the root, and it is watched as it is spelled. -/
theorem directories_cover_spelled :
    let fs : FileSystem :=
      ⟨.ofString "/w/x", fun _ => false, fun p => p ≠ .ofString "none", fun _ => .error .notFound⟩
    let w := fs.workingDirectory
    let entry := Path.ofString "../a//main.scss/."
    let options : Options := { searchRoots := ["lib/", "none", "lib", "../x/lib"].map .ofString }
    let watched := directories fs entry options.searchRoots
    let handed := (Session.request Marker.someToken options (entry.absolute w)).searchRoots
    w.isAbsolute = true ∧ entry.fileName? = some "main.scss".toList ∧
      Path.ofString "/w/a" ∈ handed ∧
      (∃ d ∈ watched, (w.join d).normalize = (w.join (.ofString "/w/a")).normalize) ∧
      watched = ["../a", "lib/", "../x/lib"].map .ofString ∧
      watched.Pairwise (fun p q => ¬ p.same q = true) := by
  intro fs w entry options watched handed
  have hworking : w.isAbsolute = true := by decide
  have hn : entry.fileName? = some "main.scss".toList := by decide
  have hadded : Path.ofString "/w/a" ∈ handed := by decide
  obtain ⟨hcover, hdistinct, -⟩ :=
    @directories_cover fs entry hworking _ hn Marker.someToken options
  exact ⟨hworking, hn, hadded, hcover _ hadded (by decide), by decide, hdistinct⟩

end StyleVars.Watch
