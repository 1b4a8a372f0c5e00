import StyleVars.Disk
import StyleVars.Proofs.Path.Normalize

/-
  Walks through a file tree. A walk that succeeds goes where the path leads lexically, and every
  directory on the way to its location is there: this is the invariant (`Reached`) that each
  segment keeps. So the normal form of a path leads where the path does (`locate_normalize`), and a
  relative path where it leads from the working directory (`locate_join`).
-/

namespace StyleVars.Disk

open StyleVars.Path (IsName follow)

variable {d : Disk}

/-! ## Steps -/

theorem step_eq_ok {l l' : List Text} {segment : Text} :
    d.step l segment = .ok l' ↔ d.node? l = some .directory ∧ l' = follow l segment := by
  unfold step follow
  cases h : d.node? l with
  | none => simp
  | some n =>
    cases n with
    | file c => simp
    | directory =>
      have hvoid : Path.isVoid segment = true ↔ segment = [] ∨ segment = ['.'] := by
        simp [Path.isVoid]
      simp only [true_and, hvoid]
      split
      · simp [eq_comm]
      · split <;> simp [eq_comm]

/-- Everything above a location is a directory. -/
def Reached (d : Disk) (l : List Text) : Prop :=
  ∀ m, m <+: l → m ≠ l → d.node? m = some .directory

theorem node?_nil (d : Disk) : d.node? [] = some .directory := rfl

theorem reached_nil (d : Disk) : d.Reached [] :=
  fun _ hm hne => absurd (List.prefix_nil.mp hm) hne

/-- A step is taken from a directory, so everything above the new location is one. -/
theorem Reached.step {l l' : List Text} {segment : Text} (hl : d.Reached l)
    (h : d.step l segment = .ok l') : d.Reached l' := by
  obtain ⟨hdir, rfl⟩ := step_eq_ok.mp h
  intro m hm hne
  unfold follow at hm hne
  split at hm
  · next hvoid =>
    rw [if_pos hvoid] at hne
    exact hl m hm hne
  next hvoid =>
    rw [if_neg hvoid] at hne
    split at hm
    · next hup =>
      rw [if_pos hup] at hne
      refine hl m (hm.trans (List.dropLast_prefix l)) ?_
      -- Going up at the root stays there: only there is a location a prefix of its parent.
      rintro rfl
      exact hne (hm.eq_of_length_le (List.dropLast_sublist m).length_le)
    next hup =>
      rw [if_neg hup] at hne
      rcases List.prefix_concat_iff.mp hm with rfl | hm
      · exact absurd rfl hne
      · by_cases he : m = l
        · rw [he]
          exact hdir
        · exact hl m hm he

/-! ## Walks -/

/-- A walk that succeeds goes where its segments lead lexically. -/
theorem Reached.walk {segments l l' : List Text} (hl : d.Reached l)
    (h : segments.foldlM d.step l = .ok l') : l' = segments.foldl follow l ∧ d.Reached l' := by
  induction segments generalizing l with
  | nil =>
    obtain rfl := Except.ok.inj h
    exact ⟨rfl, hl⟩
  | cons segment segments ih =>
    rw [List.foldlM_cons] at h
    cases hstep : d.step l segment with
    | error e =>
      rw [hstep] at h
      cases h
    | ok m =>
      rw [hstep] at h
      rw [List.foldl_cons, ← (step_eq_ok.mp hstep).2]
      exact ih (hl.step hstep) h

theorem walk_concat {before : List Text} {n : Text} {l l' : List Text}
    (h : (before ++ [n]).foldlM d.step l = .ok l') :
    ∃ m, before.foldlM d.step l = .ok m ∧ d.step m n = .ok l' := by
  rw [List.foldlM_append] at h
  cases hbefore : before.foldlM d.step l with
  | error e =>
    rw [hbefore] at h
    cases h
  | ok m =>
    have hlast : [n].foldlM d.step m = d.step m n := by
      rw [List.foldlM_cons]
      cases d.step m n <;> rfl
    rw [hbefore] at h
    exact ⟨m, rfl, hlast.symm.trans h⟩

/-- Names are walked down if everything on the way is a directory. -/
theorem walk_names {names l : List Text} (hn : ∀ n ∈ names, IsName n)
    (h : d.Reached (l ++ names)) : names.foldlM d.step l = .ok (l ++ names) := by
  induction names generalizing l with
  | nil =>
    rw [List.append_nil]
    rfl
  | cons n names ih =>
    have hdir : d.node? l = some .directory :=
      h l (List.prefix_append l _) (by simp)
    have hfollow : follow l n = l ++ [n] := Path.follow_name (hn n List.mem_cons_self) l
    have hsplit : l ++ n :: names = l ++ [n] ++ names := by simp
    rw [List.foldlM_cons, step_eq_ok.mpr ⟨hdir, hfollow.symm⟩, hsplit]
    rw [hsplit] at h
    exact ih (fun m hm => hn m (List.mem_cons_of_mem n hm)) h

/-! ## Absolute paths -/

theorem locate_absolute (d : Disk) (t : Text) :
    d.locate ⟨'/' :: t⟩ = (Text.splitAt '/' t).foldlM d.step [] := by
  unfold locate
  have hsplit : Text.splitAt '/' ('/' :: t) = [] :: Text.splitAt '/' t := Text.splitAt_sep t
  rw [hsplit]
  rfl

/-- The location of an absolute path consists of names, below directories. -/
theorem locate_absolute_eq_ok {t : Text} {l : List Text} (h : d.locate ⟨'/' :: t⟩ = .ok l) :
    l = Path.destination (Text.splitAt '/' t) ∧ (∀ n ∈ l, IsName n) ∧ d.Reached l := by
  rw [locate_absolute] at h
  obtain ⟨hl, hreached⟩ := (reached_nil d).walk h
  refine ⟨hl, ?_, hreached⟩
  rw [hl]
  exact Path.isName_of_mem_foldl_follow (fun _ => Text.notMem_of_mem_splitAt) (by simp)

/-- The plain spelling of a location leads to it. -/
theorem locate_spelling {l : List Text} (hn : ∀ n ∈ l, IsName n) (h : d.Reached l) :
    d.locate ⟨'/' :: Text.joinWith ['/'] l⟩ = .ok l := by
  rw [locate_absolute]
  cases l with
  | nil => rfl
  | cons n l =>
    have hsplit : Text.splitAt '/' (Text.joinWith ['/'] (n :: l)) = n :: l :=
      List.splitOn_intercalate '/' (fun m hm => (hn m hm).2.2.2) (List.cons_ne_nil n l)
    rw [hsplit]
    exact walk_names hn h

/-- The normal form of a path leads where the path does. -/
theorem locate_normalize {p : Path} (hp : p.isAbsolute = true) {l : List Text}
    (h : d.locate p = .ok l) : d.locate p.normalize = .ok l := by
  obtain ⟨t, rfl⟩ := Path.isAbsolute_iff.mp hp
  obtain ⟨hl, hn, hreached⟩ := locate_absolute_eq_ok h
  rw [Path.normalize_absolute, ← hl]
  exact locate_spelling hn hreached

/-- A step to a file is a step down to a name: every other step ends at a directory. -/
theorem isName_of_step_file {m l : List Text} {n : Text} {c : Content} (hm : d.Reached m)
    (h : d.step m n = .ok l) (hfile : d.node? l = some (.file c)) (hslash : '/' ∉ n) :
    IsName n := by
  obtain ⟨hdir, hl⟩ := step_eq_ok.mp h
  have hnotDirectory : d.node? l ≠ some .directory := by
    rw [hfile]
    intro he
    cases he
  unfold follow at hl
  split at hl
  · rw [hl] at hnotDirectory
    exact absurd hdir hnotDirectory
  next hvoid =>
    split at hl
    · exfalso
      apply hnotDirectory
      rcases List.eq_nil_or_concat m with rfl | ⟨init, s, rfl⟩
      · rw [hl]
        exact node?_nil d
      · rw [List.concat_eq_append, List.dropLast_concat] at hl
        rw [hl]
        exact hm init (by simp) (by simp)
    next hup => exact Path.isName_of_not_isVoid hvoid hup hslash

/-- An absolute path that leads to a file ends with a name. -/
theorem exists_fileName?_eq {p : Path} (hp : p.isAbsolute = true) {l : List Text} {c : Content}
    (h : d.locate p = .ok l) (hfile : d.node? l = some (.file c)) :
    ∃ n, p.fileName? = some n := by
  obtain ⟨t, rfl⟩ := Path.isAbsolute_iff.mp hp
  obtain ⟨before, n, hsplit, hslash⟩ := Text.splitAt_eq_concat '/' t
  rw [locate_absolute, hsplit] at h
  obtain ⟨m, hwalk, hstep⟩ := walk_concat h
  have hreached := ((reached_nil d).walk hwalk).2
  have hname : IsName n := isName_of_step_file hreached hstep hfile hslash
  exact ⟨n, Path.fileName?_absolute hsplit hname⟩

/-! ## Relative paths -/

/-- The working directory is spelled by names, and everything above it is a directory: so it is
for every directory a process runs in. -/
structure Grounded (d : Disk) : Prop where
  isName : ∀ n ∈ d.workingDirectory, IsName n
  reached : d.Reached d.workingDirectory

/-- A relative path leads from the root, behind the working directory, where it leads from the
working directory. -/
theorem Grounded.locate_join (hd : d.Grounded) {p : Path} (hp : p.isAbsolute = false)
    {l : List Text} (h : d.locate p = .ok l) :
    (d.workingPath.join p).isAbsolute = true ∧ d.locate (d.workingPath.join p) = .ok l := by
  obtain ⟨t⟩ := p
  have hwalk : (Text.splitAt '/' t).foldlM d.step d.workingDirectory = .ok l := by
    unfold locate at h
    split at h
    · cases h
    · rwa [hp] at h
  unfold workingPath
  rcases List.eq_nil_or_concat d.workingDirectory with hroot | ⟨init, n, hdir⟩
  · rw [hroot] at hwalk ⊢
    rw [show Path.mk ('/' :: Text.joinWith ['/'] []) = ⟨['/']⟩ from rfl, Path.join_root hp]
    exact ⟨rfl, (locate_absolute d t).trans hwalk⟩
  · rw [List.concat_eq_append] at hdir
    have hn : IsName n := hd.isName n (by simp [hdir])
    have hlast := Path.getLast?_ne_separator init hn.1 hn.2.2.2
    have hsplit : Text.splitAt '/' (Text.joinWith ['/'] (init ++ [n])) = init ++ [n] :=
      List.splitOn_intercalate '/' (fun m hm => (hd.isName m (by rwa [hdir])).2.2.2) (by simp)
    have hdown : (init ++ [n]).foldlM d.step [] = .ok (init ++ [n]) :=
      walk_names (by simpa [hdir] using hd.isName) (by simpa [hdir] using hd.reached)
    rw [hdir] at hwalk ⊢
    rw [Path.join_of_getLast?_ne hlast hp]
    refine ⟨rfl, ?_⟩
    have hpieces : Text.splitAt '/' (Text.joinWith ['/'] (init ++ [n]) ++ '/' :: t) =
        init ++ [n] ++ Text.splitAt '/' t :=
      (List.splitOn_append_cons_self _ t).trans (congrArg (· ++ Text.splitAt '/' t) hsplit)
    rw [locate_absolute, hpieces, List.foldlM_append, hdown]
    exact hwalk

/-! ## Files -/

theorem lookup_eq_ok {p : Path} {n : Node} :
    d.lookup p = .ok n ↔ ∃ l, d.locate p = .ok l ∧ d.node? l = some n := by
  unfold lookup
  cases d.locate p with
  | error e => simp [Except.bind]
  | ok l => cases h : d.node? l <;> simp [Except.bind, h]

theorem read_eq_ok {p : Path} {c : Content} :
    d.fileSystem.read p = .ok c ↔ ∃ l, d.locate p = .ok l ∧ d.node? l = some (.file c) := by
  rw [← lookup_eq_ok]
  unfold fileSystem
  dsimp only
  cases d.lookup p with
  | error e => simp
  | ok n => cases n <;> simp

theorem isFile_of_read {p : Path} {c : Content} (h : d.fileSystem.read p = .ok c) :
    d.fileSystem.isFile p = true := by
  have hlookup : d.lookup p = .ok (.file c) := lookup_eq_ok.mpr (read_eq_ok.mp h)
  unfold fileSystem
  dsimp only
  rw [hlookup]

/-- The files of a tree can be read. -/
theorem exists_read_of_isFile {p : Path} (h : d.fileSystem.isFile p = true) :
    ∃ c, d.fileSystem.read p = .ok c := by
  unfold fileSystem at h ⊢
  dsimp only at h ⊢
  split at h
  · next c hlookup =>
    rw [hlookup]
    exact ⟨c, rfl⟩
  · cases h

end StyleVars.Disk
