import StyleVars.Proofs.Disk.Walk
import StyleVars.Proofs.HookedFiles.Probe

/-
  Runs on a disk that does not change. A path that was once answered not to be a file is settled:
  the hook was asked about its name in its directory, or never will be, so it stays no file
  (`Settled.grows`). A path that is a file without being one on disk is virtual, and there is the
  one question that made it so (`servedBy_of_virtual`). Hence the compiler sees one file system:
  `isFile_consistent`.
-/

namespace StyleVars.HookedFiles

variable {σ : Type}

/-- A run on a disk that does not change. -/
def runOn (fs : FileSystem) (hook : ImportHook σ) (questions : List Query) (w : HookedFiles σ) :
    HookedFiles σ :=
  run (fun _ => hook) (questions.map fun q => (fs, q)) w

section Steady

variable {fs : FileSystem} {hook : ImportHook σ} {p q : Path} {w w' : HookedFiles σ}
  {calls : List Call} {s : σ} {questions : List Query} {t : Text}

theorem runOn_append (questions more : List Query) (w : HookedFiles σ) :
    runOn fs hook (questions ++ more) w = runOn fs hook more (runOn fs hook questions w) := by
  unfold runOn run
  rw [List.map_append, List.foldl_append]

/-- The hook may be one that reads the disk. -/
theorem runOn_eq_run (hook : FileSystem → ImportHook σ) (questions : List Query)
    (w : HookedFiles σ) :
    runOn fs (hook fs) questions w = run hook (questions.map fun q => (fs, q)) w := by
  unfold runOn run
  rw [List.foldl_map, List.foldl_map]

theorem exists_grows_runOn (fs : FileSystem) (hook : ImportHook σ) (questions : List Query)
    (w : HookedFiles σ) : ∃ calls, Grows w (runOn fs hook questions w) calls :=
  ⟨_, grows_run (fun _ => hook) (questions.map fun q => (fs, q)) w⟩

/-- What comes after a question grows from where that question led. -/
theorem exists_grows_later (fs : FileSystem) (hook : ImportHook σ) (before : List Query)
    (question : Query) (more : List Query) (w : HookedFiles σ) :
    ∃ calls, Grows (question.after fs hook (runOn fs hook before w))
      (runOn fs hook (before ++ question :: more) w) calls := by
  rw [runOn_append]
  exact exists_grows_runOn fs hook more _

/-! ## Paths that are the same -/

theorem virtual?_congr (h : p.same q = true) (w : HookedFiles σ) : w.virtual? p = w.virtual? q := by
  unfold virtual? Path.same
  rw [Path.same_iff.mp h]

theorem isProbed_congr {d e : Path} (h : d.same e = true) (w : HookedFiles σ) (reference : Text) :
    w.isProbed d reference = w.isProbed e reference := by
  unfold isProbed Path.same
  rw [Path.same_iff.mp h]

theorem Fresh.congr {reference : Text} (h : p.same q = true) (hp : w.Fresh p reference) :
    w.Fresh q reference := by
  obtain ⟨hextension, hreference, hprobed⟩ := hp
  refine ⟨(Path.extension?_congr h).symm.trans hextension,
    (Path.importReference?_congr h).symm.trans hreference, ?_⟩
  rw [← isProbed_congr (Path.same_directory h)]
  exact hprobed

theorem Settled.congr (h : p.same q = true) (hp : w.Settled p) : w.Settled q :=
  ⟨(virtual?_congr h w).symm.trans hp.1, fun reference hq =>
    hp.2 reference (hq.congr (Path.same_symm h))⟩

/-! ## Paths that are no files -/

/-- What is settled stays so: only a call about the path's own name in its directory could make it
virtual, and there is none to come. -/
theorem Settled.grows (hp : w.Settled p) (h : Grows w w' calls) : w'.Settled p := by
  obtain ⟨hvirtual, hfresh⟩ := hp
  refine ⟨?_, fun reference hq => hfresh reference (h.fresh_of_fresh hq)⟩
  rw [Option.eq_none_iff_forall_ne_some]
  intro t ht
  rcases h.virtual?_cases ht with hold | ⟨-, c, hc, hsame, -⟩
  · rw [hvirtual] at hold
    cases hold
  · exact hfresh c.reference ((h.fresh c hc).congr hsame)

/-- After a call, the paths for its name in its directory are settled, but for the path that it made
virtual and those that were virtual before. -/
theorem settled_asked {reference : Text} {a : Answer} (h : w.Fresh p reference)
    (hvirtual : w.virtual? q = none) (hdirectory : p.directory.same q.directory = true)
    (hreference : q.importReference? = some reference)
    (ha : p.same q = true → ∀ t, a ≠ .source t) (s : σ) :
    (w.asked ⟨reference, p, a⟩ s).Settled q := by
  have hgrows := grows_asked (c := ⟨reference, p, a⟩) h s
  constructor
  · rw [Option.eq_none_iff_forall_ne_some]
    intro t ht
    rcases hgrows.virtual?_cases ht with hold | ⟨-, c, hc, hsame, hanswer⟩
    · rw [hvirtual] at hold
      cases hold
    · obtain rfl := List.mem_singleton.mp hc
      exact ha hsame t hanswer
  · intro other hother
    have hother' : reference = other := Option.some.inj (hreference.symm.trans hother.2.1)
    exact hgrows.not_like (d := ⟨other, q, a⟩) (List.mem_singleton_self _) hother
      ⟨hdirectory, hother'⟩

/-- A path that is answered to be no file is none on disk, and settled from then on. -/
theorem settled_of_isFile (h : (isFile fs hook p w).1 = false) :
    fs.isFile p = false ∧ (isFile fs hook p w).2.Settled p := by
  rcases known_or_settled_or_fresh fs p w with hp | ⟨hfs, hp⟩ | ⟨hfs, hvirtual, reference, hp⟩
  · rw [isFile_known hp] at h
    cases h
  · rw [isFile_settled hp hfs]
    exact ⟨hfs, hp⟩
  · obtain ⟨⟨a, s⟩, ha⟩ : ∃ r, hook reference p w.hookState = r := ⟨_, rfl⟩
    rw [isFile_fresh hvirtual hfs hp ha] at h ⊢
    refine ⟨hfs, settled_asked hp hvirtual (Path.same_refl _) hp.2.1 (fun _ t ht => ?_) s⟩
    rw [ht] at h
    cases h

/-! ## Paths that are virtual files -/

theorem virtual?_asked {reference : Text} (hvirtual : w.virtual? p = none) (t : Text) (s : σ) :
    (w.asked ⟨reference, p, .source t⟩ s).virtual? p = some t := by
  unfold virtual? at hvirtual ⊢
  unfold asked
  rw [Option.map_eq_none_iff] at hvirtual
  rw [List.find?_append, hvirtual]
  simp [Call.file?, Path.same_refl]

/-- A path that is answered to be a file, and is none on disk, is virtual from then on. -/
theorem virtual_of_isFile (h : (isFile fs hook p w).1 = true) (hfs : fs.isFile p = false) :
    ∃ t, (isFile fs hook p w).2.virtual? p = some t := by
  rcases known_or_settled_or_fresh fs p w with hp | ⟨-, hp⟩ | ⟨-, hvirtual, reference, hp⟩
  · rw [isFile_known hp]
    refine Option.isSome_iff_exists.mp (hp.resolve_right ?_)
    rw [hfs]
    exact Bool.false_ne_true
  · rw [isFile_settled hp hfs] at h
    cases h
  · obtain ⟨⟨a, s⟩, ha⟩ : ∃ r, hook reference p w.hookState = r := ⟨_, rfl⟩
    rw [isFile_fresh hvirtual hfs hp ha] at h ⊢
    cases a with
    | source t => exact ⟨t, virtual?_asked hvirtual t s⟩
    | resolved r => cases h
    | declined => cases h

/-- One of these questions made the path a virtual file with this text: it was none before, and
this is what the hook answered when it was asked for. -/
def ServedBy (fs : FileSystem) (hook : ImportHook σ) (s : σ) (questions : List Query) (p : Path)
    (t : Text) : Prop :=
  ∃ before q after reference, questions = before ++ .isFile q :: after ∧ q.same p = true ∧
    (runOn fs hook before (start s)).virtual? q = none ∧
    (runOn fs hook before (start s)).Fresh q reference ∧
    (hook reference q (runOn fs hook before (start s)).hookState).1 = .source t

theorem ServedBy.append (h : ServedBy fs hook s questions p t) (more : List Query) :
    ServedBy fs hook s (questions ++ more) p t := by
  obtain ⟨before, q, after, reference, rfl, h⟩ := h
  exact ⟨before, q, after ++ more, reference, by simp, h⟩

/-- The call that a question makes is about the path it asks for. -/
theorem of_mem_probes {question : Query} {c : Call} (h : c ∈ question.probes fs hook w) :
    question = .isFile c.importing ∧ w.virtual? c.importing = none ∧
      w.Fresh c.importing c.reference ∧
      c.answer = (hook c.reference c.importing w.hookState).1 := by
  cases question with
  | isFile p =>
    rcases quiet_or_fresh fs hook p w with ⟨-, hprobes⟩ | ⟨hfs, hvirtual, reference, hfresh⟩
    · rw [hprobes] at h
      cases h
    · rw [probes_fresh hvirtual hfs hfresh rfl] at h
      obtain rfl := List.mem_singleton.mp h
      exact ⟨rfl, hvirtual, hfresh, rfl⟩
  | isDirectory p => cases h
  | read p => cases h

/-- Behind every virtual file is the question that made it. -/
theorem servedBy_of_virtual (h : (runOn fs hook questions (start s)).virtual? p = some t) :
    ServedBy fs hook s questions p t := by
  induction questions using List.reverseRecOn with
  | nil => cases h
  | append_singleton before question ih =>
    rw [runOn_append] at h
    have hgrows := grows_after fs hook question (runOn fs hook before (start s))
    rcases hgrows.virtual?_cases h with hold | ⟨-, c, hc, hsame, hanswer⟩
    · exact (ih hold).append [question]
    · obtain ⟨rfl, hvirtual, hfresh, hask⟩ := of_mem_probes hc
      exact ⟨before, c.importing, [], c.reference, rfl, hsame, hvirtual, hfresh,
        hask.symm.trans hanswer⟩

/-! ## One file system -/

/-- The answer to a question for a file is the answer to every later one. -/
theorem isFile_of_grows (h : Grows (isFile fs hook p w).2 w' calls) (hsame : q.same p = true)
    (hfs : fs.isFile q = fs.isFile p) :
    (isFile fs hook q w').1 = (isFile fs hook p w).1 := by
  have hsame' := Path.same_symm hsame
  cases hnow : (isFile fs hook p w).1 with
  | false =>
    obtain ⟨hp, hsettled⟩ := settled_of_isFile hnow
    rw [isFile_settled ((hsettled.grows h).congr hsame') (hfs.trans hp)]
  | true =>
    cases hp : fs.isFile p with
    | true => rw [isFile_known (.inr (hfs.trans hp))]
    | false =>
      obtain ⟨t, ht⟩ := virtual_of_isFile hnow hp
      have hlater := (virtual?_congr hsame' w').symm.trans (h.virtual?_mono ht)
      rw [isFile_known (.inl (by rw [hlater]; rfl))]

/-- A file on disk that can be read there can be read. -/
theorem exists_read {c : Content} (h : fs.read p = .ok c) :
    ∃ c, (read fs hook p w).1 = .ok c := by
  unfold read
  split
  · exact ⟨_, rfl⟩
  · dsimp only
    split
    · exact ⟨_, rfl⟩
    · exact ⟨c, h⟩

/-- A path that is answered to be a file without being one on disk was served by the hook, and is
read from then on as the text it was served with. -/
theorem exists_served {before : List Query}
    (h : (isFile fs hook p (runOn fs hook before (start s))).1 = true)
    (hfs : fs.isFile p = false) :
    ∃ t, ServedBy fs hook s (before ++ [.isFile p]) p t ∧ ∀ more,
      (read fs hook p (runOn fs hook (before ++ .isFile p :: more) (start s))).1 =
        .ok (.text t) := by
  obtain ⟨t, ht⟩ := virtual_of_isFile h hfs
  have hnow : runOn fs hook (before ++ [.isFile p]) (start s) =
      (isFile fs hook p (runOn fs hook before (start s))).2 := runOn_append before _ _
  refine ⟨t, servedBy_of_virtual (hnow ▸ ht), fun more => ?_⟩
  obtain ⟨calls, hgrows⟩ := exists_grows_later fs hook before (.isFile p) more (start s)
  rw [read_of_virtual (hgrows.virtual?_mono ht)]

/-- The same path is always answered alike, whatever is asked in between. A path that was answered
to be a file can be read from then on; if it is none on disk, what is read is always the one text
that the hook gave when it was first asked for. -/
theorem isFile_consistent {fs : FileSystem}
    (hreadable : ∀ p, fs.isFile p = true → ∃ c, fs.read p = .ok c) (hook : ImportHook σ) (s : σ)
    (before : List Query) (p : Path) :
    let now := isFile fs hook p (runOn fs hook before (start s))
    let later := fun between => runOn fs hook (before ++ .isFile p :: between) (start s)
    (∀ between q, q.same p = true → fs.isFile q = fs.isFile p →
      (isFile fs hook q (later between)).1 = now.1) ∧
    (now.1 = true →
      (∀ between, ∃ c, (read fs hook p (later between)).1 = .ok c) ∧
      (fs.isFile p = false → ∃ t, ServedBy fs hook s (before ++ [.isFile p]) p t ∧
        ∀ between, (read fs hook p (later between)).1 = .ok (.text t))) := by
  intro now later
  refine ⟨fun between q hsame hfs => ?_, fun hfile => ⟨fun between => ?_, fun hp => ?_⟩⟩
  · obtain ⟨calls, hgrows⟩ := exists_grows_later fs hook before (.isFile p) between (start s)
    exact isFile_of_grows hgrows hsame hfs
  · cases hp : fs.isFile p with
    | true =>
      obtain ⟨c, hc⟩ := hreadable p hp
      exact exists_read hc
    | false =>
      obtain ⟨t, -, hread⟩ := exists_served hfile hp
      exact ⟨.text t, hread between⟩
  · exact exists_served hfile hp

end Steady

/-- A tree with one file. -/
def singleDisk : Disk where
  workingDirectory := ["r".toList]
  nodes := [(["r".toList], .directory),
    (["r".toList, "v.scss".toList], .file (.text "$a: 1;".toList))]

/-- A hook that never gives the same source twice: it counts what it is asked. -/
def countingHook : ImportHook Nat := fun reference _ n =>
  (if reference = "t".toList then .source (Text.ofNat n) else .declined, n + 1)

/-- The third thing the hook is asked for: the file read before was announced, and another path
was probed. -/
theorem isFile_consistent_counting :
    let fs := singleDisk.fileSystem
    let before := [Query.read (.ofString "v.scss"), .isFile (.ofString "x.scss")]
    let p := Path.ofString "a/_t.import.scss"
    let later := fun between =>
      runOn fs countingHook (before ++ .isFile p :: between) (start 0)
    (∀ p, fs.isFile p = true → ∃ c, fs.read p = .ok c) ∧
      fs.isFile p = false ∧ (isFile fs countingHook p (runOn fs countingHook before (start 0))).1 =
        true ∧
      (∀ between, (isFile fs countingHook p (later between)).1 = true) ∧
      ∃ t, ServedBy fs countingHook 0 (before ++ [.isFile p]) p t ∧
        ∀ between, (read fs countingHook p (later between)).1 = .ok (.text t) := by
  intro fs before p later
  have hreadable : ∀ p, fs.isFile p = true → ∃ c, fs.read p = .ok c :=
    fun _ => Disk.exists_read_of_isFile
  have hp : fs.isFile p = false := by decide
  have hfile : (isFile fs countingHook p (runOn fs countingHook before (start 0))).1 = true := by
    decide
  have h := isFile_consistent hreadable countingHook 0 before p
  exact ⟨hreadable, hp, hfile, fun between => (h.1 between p (Path.same_refl p) rfl).trans hfile,
    (h.2 hfile).2 hp⟩

end StyleVars.HookedFiles
