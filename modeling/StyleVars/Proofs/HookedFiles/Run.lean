import StyleVars.HookedFiles

/-
  Runs of a hooked file system: any questions a compiler may ask, in any order, each with the
  disk as it is at that moment. A question moves the state of the hook by at most one import
  (`hookState_after`), so what every import keeps is kept by every run (`run_hookState`).
-/

namespace StyleVars.HookedFiles

variable {σ : Type}

/-- What a compiler may ask. -/
inductive Query where
  | isFile (p : Path)
  | isDirectory (p : Path)
  | read (p : Path)

/-- The state after a question. -/
def Query.after (fs : FileSystem) (hook : ImportHook σ) : Query → HookedFiles σ → HookedFiles σ
  | .isFile p, w => (HookedFiles.isFile fs hook p w).2
  | .isDirectory _, w => w
  | .read p, w => (HookedFiles.read fs hook p w).2

/-- The state after questions, each with the disk of its moment; the hook reads the same disk. -/
def run (hook : FileSystem → ImportHook σ) (questions : List (FileSystem × Query))
    (w : HookedFiles σ) : HookedFiles σ :=
  questions.foldl (fun w q => q.2.after q.1 (hook q.1) w) w

/-- The absolute path under which a file is announced. -/
def place (fs : FileSystem) (p : Path) : Path :=
  if p.isAbsolute then p else fs.workingDirectory.join p

/-- No source stands in for the file at the path: it is not virtual, and the hook has no source for
its place. -/
def FromDisk (fs : FileSystem) (hook : ImportHook σ) (p : Path) (w : HookedFiles σ) : Prop :=
  w.virtual? p = none ∧ ∀ t, (hook (place fs p).text (place fs p) w.hookState).1 ≠ .source t

theorem read_of_virtual {fs : FileSystem} {hook : ImportHook σ} {p : Path} {w : HookedFiles σ}
    {t : Text} (h : w.virtual? p = some t) : read fs hook p w = (.ok (.text t), w) := by
  unfold read
  rw [h]

theorem read_of_not_virtual {fs : FileSystem} {hook : ImportHook σ} {p : Path}
    {w : HookedFiles σ} (h : w.virtual? p = none) :
    (read fs hook p w).2 =
      { w with hookState := (hook (place fs p).text (place fs p) w.hookState).2 } := by
  unfold read place
  rw [h]
  dsimp only
  split
  · next he => rw [he]
  · next he => rw [he]

/-- A file from disk is handed over as it is, after it was announced. -/
theorem read_of_fromDisk {fs : FileSystem} {hook : ImportHook σ} {p : Path} {w : HookedFiles σ}
    (h : FromDisk fs hook p w) : (read fs hook p w).1 = fs.read p := by
  obtain ⟨hvirtual, hsource⟩ := h
  unfold read
  rw [hvirtual]
  dsimp only
  split
  · next t s he => exact absurd (congrArg Prod.fst he) (hsource t)
  · rfl

/-- A probe asks the hook at most once. -/
theorem hookState_probe (hook : ImportHook σ) (p : Path) (w : HookedFiles σ) :
    (probe hook p w).2.hookState = w.hookState ∨ ∃ reference importing,
      (probe hook p w).2.hookState = (hook reference importing w.hookState).2 := by
  unfold probe
  split
  · split
    · exact .inl rfl
    next reference _ =>
      split
      · exact .inl rfl
      · right
        refine ⟨reference, p, ?_⟩
        dsimp only
        split
        · next he => rw [he]
        · next he => rw [he]
  · exact .inl rfl

/-- A question moves the state of the hook by at most one import. -/
theorem hookState_after (fs : FileSystem) (hook : ImportHook σ) (q : Query) (w : HookedFiles σ) :
    (q.after fs hook w).hookState = w.hookState ∨ ∃ reference importing,
      (q.after fs hook w).hookState = (hook reference importing w.hookState).2 := by
  cases q with
  | isFile p =>
    unfold Query.after isFile
    dsimp only
    split
    · exact .inl rfl
    · exact hookState_probe hook p w
  | isDirectory p => exact .inl rfl
  | read p =>
    unfold Query.after
    dsimp only
    cases h : w.virtual? p with
    | some t =>
      rw [read_of_virtual h]
      exact .inl rfl
    | none =>
      rw [read_of_not_virtual h]
      exact .inr ⟨_, _, rfl⟩

/-- What every import keeps of the hook's state, every run keeps. -/
theorem run_hookState {hook : FileSystem → ImportHook σ} {P : σ → Prop}
    (hstep : ∀ fs reference importing s, P s → P (hook fs reference importing s).2)
    (questions : List (FileSystem × Query)) {w : HookedFiles σ} (hw : P w.hookState) :
    P (run hook questions w).hookState := by
  induction questions generalizing w with
  | nil => exact hw
  | cons q questions ih =>
    apply ih
    rcases hookState_after q.1 (hook q.1) q.2 w with h | ⟨reference, importing, h⟩
    · rw [h]
      exact hw
    · rw [h]
      exact hstep q.1 reference importing w.hookState hw

end StyleVars.HookedFiles
