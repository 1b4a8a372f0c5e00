import Mathlib.Data.List.Pairwise
import StyleVars.Proofs.HookedFiles.Run
import StyleVars.Proofs.Path.Reference

/-
  What a hooked file system asks its hook when it is asked for files. `recording` keeps a list of
  the calls a hook gets; `isFile_known`, `isFile_settled` and `isFile_fresh` are all that one
  question for a file can do, and only the last makes a call. `Grows` is what a run does to the
  virtual files and the probes: it appends those of its calls, and every call is for a directory
  and a name not asked for before (`grows_run`). So each directory and name is probed at most once,
  and virtual files stay what they are (`probed_at_most_once`).
-/

namespace StyleVars.HookedFiles

variable {σ : Type}

/-! ## Calls of a hook -/

/-- An import a hook was asked about, and its answer. -/
structure Call where
  reference : Text
  importing : Path
  answer : Answer

/-- The same hook, keeping a list of its calls. -/
def recording (hook : ImportHook σ) : ImportHook (σ × List Call) := fun reference importing s =>
  let (a, t) := hook reference importing s.1
  (a, (t, s.2 ++ [⟨reference, importing, a⟩]))

/-- The same state, with a list for the calls to come. -/
def noted (w : HookedFiles σ) : HookedFiles (σ × List Call) :=
  ⟨w.virtualFiles, w.probed, (w.hookState, [])⟩

/-- The calls that a question for a file makes. -/
def Query.probes (fs : FileSystem) (hook : ImportHook σ) : Query → HookedFiles σ → List Call
  | .isFile p, w => (HookedFiles.isFile fs (recording hook) p w.noted).2.hookState.2
  | .isDirectory _, _ => []
  | .read _, _ => []

/-- The calls that the questions for files make in a run. -/
def probes (hook : FileSystem → ImportHook σ) :
    List (FileSystem × Query) → HookedFiles σ → List Call
  | [], _ => []
  | (fs, q) :: questions, w =>
    q.probes fs (hook fs) w ++ probes hook questions (q.after fs (hook fs) w)

/-- The directory and the name a call is about. -/
def Call.key (c : Call) : Path × Text := (c.importing.directory, c.reference)

/-- The virtual file that a call makes. -/
def Call.file? (c : Call) : Option (Path × Text) :=
  match c.answer with
  | .source t => some (c.importing, t)
  | _ => none

/-! ## One question for a file -/

/-- The hook has not been asked yet for what this path is probed for. -/
def Fresh (w : HookedFiles σ) (p : Path) (reference : Text) : Prop :=
  p.extension? = some virtualExtension ∧ p.importReference? = some reference ∧
    w.isProbed p.directory reference = false

/-- A path that is not virtual and never will be: there is nothing left to ask the hook for it. -/
def Settled (w : HookedFiles σ) (p : Path) : Prop :=
  w.virtual? p = none ∧ ∀ reference, ¬ w.Fresh p reference

/-- The state after a probe. -/
def asked (w : HookedFiles σ) (c : Call) (s : σ) : HookedFiles σ :=
  ⟨w.virtualFiles ++ c.file?.toList, w.probed ++ [c.key], s⟩

section Question

variable {fs : FileSystem} {hook : ImportHook σ} {p : Path} {w : HookedFiles σ}

theorem isFile_known (h : (w.virtual? p).isSome = true ∨ fs.isFile p = true) :
    isFile fs hook p w = (true, w) := by
  unfold isFile
  rw [if_pos (by simpa using h)]

theorem isFile_settled (h : w.Settled p) (hfs : fs.isFile p = false) :
    isFile fs hook p w = (false, w) := by
  obtain ⟨hvirtual, hfresh⟩ := h
  unfold isFile
  rw [if_neg (by simp [hvirtual, hfs])]
  unfold probe
  split
  · next hextension =>
    split
    · rfl
    next reference hreference =>
      rw [if_pos]
      by_contra hprobed
      exact hfresh reference ⟨hextension, hreference, by simpa using hprobed⟩
  · rfl

/-- The probe: the hook is asked, and its source makes the path a virtual file. -/
theorem isFile_fresh (hvirtual : w.virtual? p = none) (hfs : fs.isFile p = false)
    {reference : Text} (h : w.Fresh p reference) {a : Answer} {s : σ}
    (ha : hook reference p w.hookState = (a, s)) :
    isFile fs hook p w =
      ((Call.mk reference p a).file?.isSome, w.asked ⟨reference, p, a⟩ s) := by
  obtain ⟨hextension, hreference, hprobed⟩ := h
  unfold isFile
  rw [if_neg (by simp [hvirtual, hfs])]
  unfold probe
  rw [if_pos hextension, hreference]
  dsimp only
  rw [hprobed, if_neg Bool.false_ne_true, ha]
  cases a <;> simp [asked, Call.file?, Call.key]

/-- These are all the cases. -/
theorem known_or_settled_or_fresh (fs : FileSystem) (p : Path) (w : HookedFiles σ) :
    ((w.virtual? p).isSome = true ∨ fs.isFile p = true) ∨
    (fs.isFile p = false ∧ w.Settled p) ∨
    (fs.isFile p = false ∧ w.virtual? p = none ∧ ∃ reference, w.Fresh p reference) := by
  by_cases hknown : (w.virtual? p).isSome = true ∨ fs.isFile p = true
  · exact .inl hknown
  obtain ⟨hvirtual, hfs⟩ := not_or.mp hknown
  rw [Option.not_isSome_iff_eq_none] at hvirtual
  rw [Bool.not_eq_true] at hfs
  by_cases hfresh : ∃ reference, w.Fresh p reference
  · exact .inr (.inr ⟨hfs, hvirtual, hfresh⟩)
  · exact .inr (.inl ⟨hfs, hvirtual, not_exists.mp hfresh⟩)

end Question

/-! ## Growth -/

/-- Two calls about the same name in the same directory. -/
def Call.Like (c d : Call) : Prop :=
  c.importing.directory.same d.importing.directory = true ∧ c.reference = d.reference

/-- The second state is the first one after these calls: their files and their probes are appended
to what was there, and each call is the first about its name in its directory. -/
structure Grows (w w' : HookedFiles σ) (calls : List Call) : Prop where
  virtualFiles_eq : w'.virtualFiles = w.virtualFiles ++ calls.filterMap Call.file?
  probed_eq : w'.probed = w.probed ++ calls.map Call.key
  fresh : ∀ c ∈ calls, w.Fresh c.importing c.reference
  distinct : calls.Pairwise fun c d => ¬ c.Like d

section Growth

variable {w w' w'' : HookedFiles σ} {calls more : List Call}

theorem Grows.isProbed (h : Grows w w' calls) (directory : Path) (reference : Text) :
    w'.isProbed directory reference = (w.isProbed directory reference ||
      calls.any fun c => c.importing.directory.same directory && c.reference = reference) := by
  unfold HookedFiles.isProbed
  rw [h.probed_eq, List.any_append, List.any_map]
  rfl

/-- What is fresh now was fresh before. -/
theorem Grows.fresh_of_fresh (h : Grows w w' calls) {p : Path} {reference : Text}
    (hp : w'.Fresh p reference) : w.Fresh p reference := by
  obtain ⟨hextension, hreference, hprobed⟩ := hp
  rw [h.isProbed, Bool.or_eq_false_iff] at hprobed
  exact ⟨hextension, hreference, hprobed.1⟩

/-- What was asked in between is not fresh any more. -/
theorem Grows.not_like (h : Grows w w' calls) {c d : Call} (hc : c ∈ calls)
    (hd : w'.Fresh d.importing d.reference) : ¬ c.Like d := by
  rintro ⟨hsame, hreference⟩
  obtain ⟨-, -, hprobed⟩ := hd
  rw [h.isProbed, Bool.or_eq_false_iff, List.any_eq_false] at hprobed
  exact hprobed.2 c hc (by simp [hsame, hreference])

theorem grows_of_eq (hfiles : w'.virtualFiles = w.virtualFiles) (hprobed : w'.probed = w.probed) :
    Grows w w' [] where
  virtualFiles_eq := by rw [hfiles, List.filterMap_nil, List.append_nil]
  probed_eq := by rw [hprobed, List.map_nil, List.append_nil]
  fresh := List.forall_mem_nil _
  distinct := List.Pairwise.nil

theorem grows_asked {c : Call} (h : w.Fresh c.importing c.reference) (s : σ) :
    Grows w (w.asked c s) [c] where
  virtualFiles_eq := by
    unfold asked
    cases hc : c.file? <;> simp [hc]
  probed_eq := rfl
  fresh := List.forall_mem_singleton.mpr h
  distinct := List.pairwise_singleton _ c

theorem Grows.trans (h : Grows w w' calls) (h' : Grows w' w'' more) :
    Grows w w'' (calls ++ more) where
  virtualFiles_eq := by
    rw [h'.virtualFiles_eq, h.virtualFiles_eq, List.filterMap_append, List.append_assoc]
  probed_eq := by rw [h'.probed_eq, h.probed_eq, List.map_append, List.append_assoc]
  fresh := by
    intro c hc
    rcases List.mem_append.mp hc with hc | hc
    · exact h.fresh c hc
    · exact h.fresh_of_fresh (h'.fresh c hc)
  distinct := List.pairwise_append.mpr
    ⟨h.distinct, h'.distinct, fun _ hc d hd => h.not_like hc (h'.fresh d hd)⟩

/-! ## Virtual files -/

theorem Call.file?_eq_some {c : Call} {f : Path × Text} :
    c.file? = some f ↔ c.importing = f.1 ∧ c.answer = .source f.2 := by
  obtain ⟨reference, importing, answer⟩ := c
  obtain ⟨p, t⟩ := f
  cases answer <;> simp [Call.file?]

/-- A virtual file is there from before, or a call in between made it. -/
theorem Grows.virtual?_cases (h : Grows w w' calls) {p : Path} {t : Text}
    (hp : w'.virtual? p = some t) :
    w.virtual? p = some t ∨ w.virtual? p = none ∧
      ∃ c ∈ calls, c.importing.same p = true ∧ c.answer = .source t := by
  unfold HookedFiles.virtual? at hp ⊢
  rw [h.virtualFiles_eq, List.find?_append] at hp
  cases hold : w.virtualFiles.find? fun f => f.1.same p with
  | some f =>
    rw [hold] at hp
    exact .inl hp
  | none =>
    rw [hold, Option.none_or] at hp
    obtain ⟨f, hf, rfl⟩ := Option.map_eq_some_iff.mp hp
    obtain ⟨c, hc, hcf⟩ := List.mem_filterMap.mp (List.mem_of_find?_eq_some hf)
    obtain ⟨himporting, hanswer⟩ := Call.file?_eq_some.mp hcf
    have hsame := List.find?_some hf
    rw [← himporting] at hsame
    exact .inr ⟨rfl, c, hc, hsame, hanswer⟩

/-- A virtual file stays what it is. -/
theorem Grows.virtual?_mono (h : Grows w w' calls) {p : Path} {t : Text}
    (hp : w.virtual? p = some t) : w'.virtual? p = some t := by
  unfold HookedFiles.virtual? at hp ⊢
  obtain ⟨f, hf, ht⟩ := Option.map_eq_some_iff.mp hp
  rw [h.virtualFiles_eq, List.find?_append, hf]
  exact congrArg some ht

end Growth

/-! ## Runs -/

section Runs

/-- A question for a file makes one call if its path is fresh. -/
theorem probes_fresh {fs : FileSystem} {hook : ImportHook σ} {p : Path} {w : HookedFiles σ}
    (hvirtual : w.virtual? p = none) (hfs : fs.isFile p = false) {reference : Text}
    (h : w.Fresh p reference) {a : Answer} {s : σ} (ha : hook reference p w.hookState = (a, s)) :
    (Query.isFile p).probes fs hook w = [⟨reference, p, a⟩] := by
  have hnoted : recording hook reference p w.noted.hookState = (a, (s, [⟨reference, p, a⟩])) := by
    simp [recording, noted, ha]
  unfold Query.probes
  dsimp only
  rw [isFile_fresh (w := w.noted) hvirtual hfs h hnoted]
  rfl

/-- Otherwise it makes none, and leaves the state as it is. -/
theorem quiet_or_fresh (fs : FileSystem) (hook : ImportHook σ) (p : Path) (w : HookedFiles σ) :
    ((isFile fs hook p w).2 = w ∧ (Query.isFile p).probes fs hook w = []) ∨
    (fs.isFile p = false ∧ w.virtual? p = none ∧ ∃ reference, w.Fresh p reference) := by
  unfold Query.probes
  dsimp only
  rcases known_or_settled_or_fresh fs p w with h | ⟨hfs, h⟩ | hfresh
  · rw [isFile_known h, isFile_known (w := w.noted) h]
    exact .inl ⟨rfl, rfl⟩
  · rw [isFile_settled h hfs, isFile_settled (w := w.noted) h hfs]
    exact .inl ⟨rfl, rfl⟩
  · exact .inr hfresh

/-- The calls of a question for a file are what it adds. -/
theorem grows_isFile (fs : FileSystem) (hook : ImportHook σ) (p : Path) (w : HookedFiles σ) :
    Grows w (isFile fs hook p w).2 ((Query.isFile p).probes fs hook w) := by
  rcases quiet_or_fresh fs hook p w with ⟨hw, hprobes⟩ | ⟨hfs, hvirtual, reference, h⟩
  · rw [hw, hprobes]
    exact grows_of_eq rfl rfl
  · obtain ⟨⟨a, s⟩, ha⟩ : ∃ r, hook reference p w.hookState = r := ⟨_, rfl⟩
    rw [probes_fresh hvirtual hfs h ha, isFile_fresh hvirtual hfs h ha]
    exact grows_asked (c := ⟨reference, p, a⟩) h s

/-- Other questions add nothing. -/
theorem grows_after (fs : FileSystem) (hook : ImportHook σ) (q : Query) (w : HookedFiles σ) :
    Grows w (q.after fs hook w) (q.probes fs hook w) := by
  cases q with
  | isFile p => exact grows_isFile fs hook p w
  | isDirectory p => exact grows_of_eq rfl rfl
  | read p =>
    unfold Query.after
    dsimp only
    cases h : w.virtual? p with
    | some t =>
      rw [read_of_virtual h]
      exact grows_of_eq rfl rfl
    | none =>
      rw [read_of_not_virtual h]
      exact grows_of_eq rfl rfl

theorem grows_run (hook : FileSystem → ImportHook σ) (questions : List (FileSystem × Query))
    (w : HookedFiles σ) : Grows w (run hook questions w) (probes hook questions w) := by
  induction questions generalizing w with
  | nil => exact grows_of_eq rfl rfl
  | cons q questions ih => exact (grows_after q.1 (hook q.1) q.2 w).trans (ih _)

end Runs

/-! ## At most once -/

/-- Is the path probed for this name in this directory? -/
def isAt (directory : Path) (reference : Text) (p : Path) : Bool :=
  p.directory.same directory && p.importReference? = some reference

theorem isAt_iff {directory p : Path} {reference : Text} :
    isAt directory reference p = true ↔
      p.directory.same directory = true ∧ p.importReference? = some reference := by
  simp [isAt]

theorem countP_le_one {α : Type} {f : α → Bool} {l : List α}
    (h : l.Pairwise fun a b => ¬ (f a = true ∧ f b = true)) : l.countP f ≤ 1 := by
  induction l with
  | nil => exact Nat.zero_le 1
  | cons a l ih =>
    obtain ⟨ha, hl⟩ := List.pairwise_cons.mp h
    by_cases hf : f a = true
    · have hnone : l.countP f = 0 := List.countP_eq_zero.mpr fun b hb hb' => ha b hb ⟨hf, hb'⟩
      rw [List.countP_cons_of_pos hf, hnone]
    · rw [List.countP_cons_of_neg hf]
      exact ih hl

section AtMostOnce

variable {w : HookedFiles σ} {s : σ} {calls : List Call}

theorem Grows.countP_calls_le_one {w' : HookedFiles σ} (h : Grows w w' calls) (directory : Path)
    (reference : Text) : calls.countP (fun c => isAt directory reference c.importing) ≤ 1 := by
  refine countP_le_one (h.distinct.imp_of_mem fun {c d} hc hd hlike => ?_)
  rintro ⟨hcat, hdat⟩
  obtain ⟨hcdirectory, hcreference⟩ := isAt_iff.mp hcat
  obtain ⟨hddirectory, hdreference⟩ := isAt_iff.mp hdat
  refine hlike ⟨Path.same_trans hcdirectory (Path.same_symm hddirectory), ?_⟩
  have hc' := (h.fresh c hc).2.1
  have hd' := (h.fresh d hd).2.1
  rw [hcreference] at hc'
  rw [hdreference] at hd'
  exact (Option.some.inj hc').symm.trans (Option.some.inj hd')

/-- The virtual files are among the paths of the calls. -/
theorem countP_filterMap_file?_le (calls : List Call) (f : Path → Bool) :
    (calls.filterMap Call.file?).countP (fun q => f q.1) ≤ calls.countP fun c => f c.importing := by
  rw [List.countP_filterMap]
  refine List.countP_mono_left fun c _ hc => ?_
  cases hfile : c.file? with
  | none =>
    rw [hfile] at hc
    cases hc
  | some q =>
    rw [hfile] at hc
    rw [(Call.file?_eq_some.mp hfile).1]
    exact hc

theorem Call.Like.symm {c d : Call} (h : c.Like d) : d.Like c :=
  ⟨Path.same_symm h.1, h.2.symm⟩

/-- Calls for the same path are one call. -/
theorem Grows.eq_of_same {w' : HookedFiles σ} (h : Grows w w' calls) {c d : Call} (hc : c ∈ calls)
    (hd : d ∈ calls) (hsame : c.importing.same d.importing = true) : c = d := by
  have hsymm : Std.Symm fun c d : Call => ¬ c.Like d := ⟨fun _ _ h h' => h h'.symm⟩
  by_contra hne
  refine h.distinct.forall hc hd hne ?_
  have hreference := (h.fresh c hc).2.1
  rw [Path.importReference?_congr hsame, (h.fresh d hd).2.1] at hreference
  exact ⟨Path.same_directory hsame, (Option.some.inj hreference).symm⟩

/-- No virtual file hides another one. -/
theorem Grows.virtual?_of_mem (h : Grows (start s) w calls) {f : Path × Text}
    (hf : f ∈ w.virtualFiles) : w.virtual? f.1 = some f.2 := by
  obtain ⟨g, hg⟩ : ∃ g, w.virtualFiles.find? (fun g => g.1.same f.1) = some g :=
    Option.isSome_iff_exists.mp (List.find?_isSome.mpr ⟨f, hf, Path.same_refl f.1⟩)
  have hsame := List.find?_some hg
  have hmem := List.mem_of_find?_eq_some hg
  have hfiles : w.virtualFiles = calls.filterMap Call.file? := h.virtualFiles_eq
  rw [hfiles] at hf hmem
  obtain ⟨c, hc, hcf⟩ := List.mem_filterMap.mp hf
  obtain ⟨d, hd, hdg⟩ := List.mem_filterMap.mp hmem
  obtain ⟨hcf', -⟩ := Call.file?_eq_some.mp hcf
  obtain ⟨hdg', -⟩ := Call.file?_eq_some.mp hdg
  rw [← hcf', ← hdg'] at hsame
  obtain rfl := h.eq_of_same hd hc hsame
  obtain rfl := Option.some.inj (hcf.symm.trans hdg)
  unfold HookedFiles.virtual?
  rw [hg]
  rfl

/-- In every run and for every directory and name: the hook is asked at most once by questions for
files, and at most one path becomes a virtual file. Virtual files have the extension of stylesheets,
and what is virtual once stays so, with the same text. -/
theorem probed_at_most_once (hook : FileSystem → ImportHook σ)
    (questions : List (FileSystem × Query)) (s : σ) :
    let w := run hook questions (start s)
    (∀ directory reference,
      (probes hook questions (start s)).countP
        (fun c => isAt directory reference c.importing) ≤ 1 ∧
      w.virtualFiles.countP (fun f => isAt directory reference f.1) ≤ 1) ∧
    (∀ f ∈ w.virtualFiles, f.1.extension? = some virtualExtension) ∧
    ∀ more, w.virtualFiles <+: (run hook (questions ++ more) (start s)).virtualFiles ∧
      ∀ f ∈ w.virtualFiles,
        (run hook (questions ++ more) (start s)).virtual? f.1 = some f.2 := by
  intro w
  have h : Grows (start s) w (probes hook questions (start s)) := grows_run hook questions (start s)
  have hfiles : w.virtualFiles = (probes hook questions (start s)).filterMap Call.file? :=
    h.virtualFiles_eq
  refine ⟨fun directory reference => ⟨h.countP_calls_le_one directory reference, ?_⟩, ?_, ?_⟩
  · rw [hfiles]
    exact (countP_filterMap_file?_le _ _).trans (h.countP_calls_le_one directory reference)
  · intro f hf
    rw [hfiles] at hf
    obtain ⟨c, hc, hcf⟩ := List.mem_filterMap.mp hf
    rw [← (Call.file?_eq_some.mp hcf).1]
    exact (h.fresh c hc).1
  · intro more
    have hmore := grows_run hook more w
    have hrun : run hook (questions ++ more) (start s) = run hook more w := List.foldl_append
    rw [hrun, hmore.virtualFiles_eq]
    exact ⟨List.prefix_append _ _, fun f hf => hmore.virtual?_mono (h.virtual?_of_mem hf)⟩

end AtMostOnce

end StyleVars.HookedFiles
