import StyleVars.Proofs.HookedFiles.Read
import StyleVars.Proofs.HookedFiles.Steady
import StyleVars.Proofs.Path.Probe

/-
  The token of a session among the files a compiler sees. A compiler looks for it under four file
  names in a directory (`probeNames`), and each of them leads back to the token (`IsProbe`).
  The first of them that is asked for and is not on disk becomes a file with the rule over the
  names of that moment; the others are settled then. Apart from the rule and the helper, no file is
  made up (`sentinel_served`).
-/

namespace StyleVars.HookedFiles

open StyleVars.Path (IsLead IsTail)
open Interceptor (Recorded)

/-! ## File names of a token -/

/-- The file names under which a compiler looks for a name among the files with the extension of
virtual files. -/
def probeNames (n : Text) : List Text :=
  ["_".toList ++ n ++ ".import.scss".toList, n ++ ".import.scss".toList,
    "_".toList ++ n ++ ".scss".toList, n ++ ".scss".toList]

theorem mem_probeNames {name n : Text} (hlead : ¬ Path.partialMark <+: n)
    (htail : ¬ Path.importOnlyMark <:+ n) (h : name ∈ probeNames n) :
    ∃ lead tail, IsLead lead n ∧ IsTail tail n ∧ name = lead ++ n ++ tail ++ ".scss".toList := by
  have hnoLead : IsLead [] n := .inr ⟨rfl, hlead⟩
  have hnoTail : IsTail [] n := .inr ⟨rfl, htail⟩
  have hboth : ".import.scss".toList = Path.importOnlyMark ++ ".scss".toList := rfl
  unfold probeNames at h
  rw [hboth] at h
  simp only [List.mem_cons, List.not_mem_nil, or_false] at h
  rcases h with rfl | rfl | rfl | rfl
  · exact ⟨Path.partialMark, Path.importOnlyMark, .inl rfl, .inl rfl,
      (List.append_assoc _ _ _).symm⟩
  · exact ⟨[], Path.importOnlyMark, hnoLead, .inl rfl, (List.append_assoc _ _ _).symm⟩
  · exact ⟨Path.partialMark, [], .inl rfl, hnoTail, by rw [List.append_nil]; rfl⟩
  · exact ⟨[], [], hnoLead, hnoTail, by rw [List.append_nil]; rfl⟩

/-- What a path under one of a token's file names is: a stylesheet in that directory that leads back
to the token. -/
structure IsProbe (token : Text) (d : Path) (name : Text) (p : Path) : Prop where
  fileName?_eq : p.fileName? = some name
  directory_same : p.directory.same d = true
  extension?_eq : p.extension? = some virtualExtension
  importReference?_eq : p.importReference? = some token

theorem isProbe_of_same_join {token : Text} (ht : isSessionToken token = true) {d p : Path}
    {name : Text} (hname : name ∈ probeNames token) (hp : p.same (d.join ⟨name⟩) = true) :
    IsProbe token d name p := by
  obtain ⟨hne, hslash, hnoLead, hnoTail⟩ := Path.isUnmarked_of_isSessionToken ht
  obtain ⟨lead, tail, hlead, htail, rfl⟩ := mem_probeNames hnoLead hnoTail hname
  have hslash' : '/' ∉ lead ++ token ++ tail :=
    Path.notMem_spelling (hlead.imp_right And.left) (htail.imp_right And.left) hslash
  have hfile := Path.of_same_join (Path.isName_stylesheet hslash' List.mem_cons_self) hp
  exact {
    fileName?_eq := hfile.1
    directory_same := hfile.2
    extension?_eq := Path.extension?_of_fileName hfile.1 (by simp [hne]) (by decide)
    importReference?_eq :=
      Path.importReference?_of_fileName hfile.1 hlead htail List.mem_cons_self hne }

/-! ## Sessions on a disk that does not change -/

/-- The hooked file system of a session after questions, on a disk that does not change. -/
def sessionOn (fs : FileSystem) (token : Text) (o : Options) (questions : List Query) :
    HookedFiles Interceptor :=
  runOn fs (Interceptor.answer fs) questions (start (Interceptor.start token o))

section Session

variable {fs : FileSystem} {token : Text} {o : Options} {questions : List Query} {d p q : Path}
  {t : Text}

theorem recorded_sessionOn (fs : FileSystem) (token : Text) (o : Options)
    (questions : List Query) :
    ∃ log, Recorded token o log (sessionOn fs token o questions).hookState := by
  have hrun : sessionOn fs token o questions =
      session token o (questions.map fun q => (fs, q)) :=
    runOn_eq_run Interceptor.answer questions _
  rw [hrun]
  exact recorded_session token o _

/-- A session's hook has two sources: the rule of the moment for the token, and the helper. -/
theorem source_cases {log : List (Interceptor.Import × Answer)} {s : Interceptor}
    (h : Recorded token o log s) {reference : Text}
    (ha : (Interceptor.answer fs reference p s).1 = .source t) :
    reference = token ∧ s.rule? = some t ∨
      reference = o.helperImport ∧ t = Helper.source := by
  rcases Interceptor.answer_cases fs reference p s with
    ⟨he, hanswer⟩ | ⟨-, he, hanswer⟩ | ⟨-, -, -, hanswer⟩ | ⟨-, -, r, u, -, hanswer⟩
  · rw [hanswer, h.rule?_eq] at ha
    rw [h.rule?_eq]
    exact .inl ⟨he.trans h.token_eq, congrArg some (Answer.source.inj ha)⟩
  · rw [hanswer] at ha
    exact .inr ⟨he.trans (congrArg Options.helperImport h.options_eq),
      (Answer.source.inj ha).symm⟩
  · rw [hanswer] at ha
    cases ha
  · rw [hanswer] at ha
    cases ha

/-- The directory and the name of a virtual file were asked for. -/
theorem isProbed_of_virtual (h : (sessionOn fs token o questions).virtual? p = some t)
    {reference : Text} (hreference : p.importReference? = some reference) :
    (sessionOn fs token o questions).isProbed p.directory reference = true := by
  obtain ⟨calls, hgrows⟩ := exists_grows_runOn fs (Interceptor.answer fs) questions
    (start (Interceptor.start token o))
  unfold sessionOn at h ⊢
  rcases hgrows.virtual?_cases h with hold | ⟨-, c, hc, hsame, -⟩
  · cases hold
  · obtain ⟨-, hcall, -⟩ := hgrows.fresh c hc
    rw [Path.importReference?_congr hsame, hreference] at hcall
    have hlike : (c.importing.directory.same p.directory && c.reference = reference) = true := by
      simp [Path.same_directory hsame, Option.some.inj hcall]
    rw [hgrows.isProbed, List.any_eq_true.mpr ⟨c, hc, hlike⟩, Bool.or_true]

theorem IsProbe.virtual?_eq_none {name : Text} (h : IsProbe token d name p)
    (hd : (sessionOn fs token o questions).isProbed d token = false) :
    (sessionOn fs token o questions).virtual? p = none := by
  rw [Option.eq_none_iff_forall_ne_some]
  intro t ht
  have hprobed := isProbed_of_virtual ht h.importReference?_eq
  rw [isProbed_congr h.directory_same, hd] at hprobed
  cases hprobed

theorem IsProbe.fresh {name : Text} (h : IsProbe token d name p)
    (hd : (sessionOn fs token o questions).isProbed d token = false) :
    (sessionOn fs token o questions).Fresh p token :=
  ⟨h.extension?_eq, h.importReference?_eq, by rw [isProbed_congr h.directory_same, hd]⟩

/-- There is always a rule over the names of the moment. -/
theorem exists_rule (fs : FileSystem) (token : Text) (o : Options) (questions : List Query) :
    ∃ rule, (sessionOn fs token o questions).hookState.rule? = some rule := by
  obtain ⟨log, hlog⟩ := recorded_sessionOn fs token o questions
  exact ⟨_, hlog.rule?_eq⟩

/-- The first probe for the token in a directory makes its path a file with the rule. -/
theorem IsProbe.isFile_eq {name : Text} (h : IsProbe token d name p)
    (hd : (sessionOn fs token o questions).isProbed d token = false)
    (hfs : fs.isFile p = false)
    (hrule : (sessionOn fs token o questions).hookState.rule? = some t) :
    isFile fs (Interceptor.answer fs) p (sessionOn fs token o questions) =
      (true, (sessionOn fs token o questions).asked ⟨token, p, .source t⟩
        (sessionOn fs token o questions).hookState) := by
  obtain ⟨log, hlog⟩ := recorded_sessionOn fs token o questions
  have hask := hlog.ask_token (i := ⟨fs, token, p⟩) rfl
  obtain rfl := Option.some.inj (hlog.rule?_eq.symm.trans hrule)
  exact isFile_fresh (h.virtual?_eq_none hd) hfs (h.fresh hd) hask

/-- What comes later grows from there. -/
theorem IsProbe.exists_grows {name : Text} (h : IsProbe token d name p)
    (hd : (sessionOn fs token o questions).isProbed d token = false)
    (hfs : fs.isFile p = false)
    (hrule : (sessionOn fs token o questions).hookState.rule? = some t) (more : List Query) :
    ∃ calls, Grows
      ((sessionOn fs token o questions).asked ⟨token, p, .source t⟩
        (sessionOn fs token o questions).hookState)
      (sessionOn fs token o (questions ++ .isFile p :: more)) calls := by
  obtain ⟨calls, hgrows⟩ := exists_grows_later fs (Interceptor.answer fs) questions (.isFile p) more
    (start (Interceptor.start token o))
  have hasked := congrArg Prod.snd (h.isFile_eq hd hfs hrule)
  dsimp only at hasked
  rw [← hasked]
  exact ⟨calls, hgrows⟩

/-- The path is read as that rule from then on. -/
theorem IsProbe.read_eq {name : Text} (h : IsProbe token d name p)
    (hd : (sessionOn fs token o questions).isProbed d token = false)
    (hfs : fs.isFile p = false)
    (hrule : (sessionOn fs token o questions).hookState.rule? = some t) (more : List Query) :
    (read fs (Interceptor.answer fs) p
      (sessionOn fs token o (questions ++ .isFile p :: more))).1 = .ok (.text t) := by
  obtain ⟨calls, hgrows⟩ := h.exists_grows hd hfs hrule more
  have hlater := hgrows.virtual?_mono (virtual?_asked (h.virtual?_eq_none hd) t _)
  exact congrArg Prod.fst (read_of_virtual hlater)

/-- The other paths for the token in the directory are no files then, unless they are on disk. -/
theorem IsProbe.isFile_other {name other : Text} (hp : IsProbe token d name p)
    (hq : IsProbe token d other q) (hne : other ≠ name)
    (hd : (sessionOn fs token o questions).isProbed d token = false)
    (hfs : fs.isFile p = false) (hqfs : fs.isFile q = false) (more : List Query) :
    (isFile fs (Interceptor.answer fs) q
      (sessionOn fs token o (questions ++ .isFile p :: more))).1 = false := by
  obtain ⟨rule, hrule⟩ := exists_rule fs token o questions
  obtain ⟨calls, hgrows⟩ := hp.exists_grows hd hfs hrule more
  have hother : ¬ p.same q = true := by
    intro hsame
    have hname := Path.fileName?_congr hsame
    rw [hp.fileName?_eq, hq.fileName?_eq] at hname
    exact hne (Option.some.inj hname).symm
  have hsettled := settled_asked (a := .source rule) (hp.fresh hd) (hq.virtual?_eq_none hd)
    (Path.same_trans hp.directory_same (Path.same_symm hq.directory_same))
    hq.importReference?_eq (fun hsame => absurd hsame hother)
    (sessionOn fs token o questions).hookState
  exact congrArg Prod.fst (isFile_settled (hsettled.grows hgrows) hqfs)

/-- What a session serves is the rule of the moment at a path for the token, or the helper at one
for the helper's name. -/
theorem ServedBy.rule_or_helper
    (h : ServedBy fs (Interceptor.answer fs) (Interceptor.start token o) questions p t) :
    p.extension? = some virtualExtension ∧ ∃ earlier q rest,
      questions = earlier ++ .isFile q :: rest ∧ q.same p = true ∧
      (sessionOn fs token o earlier).virtual? p = none ∧
      (p.importReference? = some token ∧
          (sessionOn fs token o earlier).hookState.rule? = some t ∨
        p.importReference? = some o.helperImport ∧ t = Helper.source) := by
  obtain ⟨earlier, q, rest, reference, hsplit, hsame, hvirtual, hfresh, hanswer⟩ := h
  obtain ⟨hextension, hreference, -⟩ := hfresh.congr hsame
  obtain ⟨log, hlog⟩ := recorded_sessionOn fs token o earlier
  refine ⟨hextension, earlier, q, rest, hsplit, hsame,
    (virtual?_congr (Path.same_symm hsame) _).trans hvirtual, ?_⟩
  rcases source_cases hlog hanswer with ⟨rfl, hrule⟩ | ⟨rfl, htext⟩
  · exact .inl ⟨hreference, hrule⟩
  · exact .inr ⟨hreference, htext⟩

end Session

/-- In a directory where the token was not asked for yet, the first of its four paths that is none on
disk is a file: it is read, from then on, as the rule over the names seen by then, and the others
are no files unless they are on disk. And whatever is a file without being on disk is a stylesheet
for the token, with the rule of the moment when it was first asked for, or for the helper's name,
with the helper. -/
theorem sentinel_served {token : Text} (ht : isSessionToken token = true) (o : Options)
    (fs : FileSystem) (before : List Query) :
    let hook := Interceptor.answer fs
    let w := sessionOn fs token o before
    let later := fun p more => sessionOn fs token o (before ++ .isFile p :: more)
    (∀ d name p, name ∈ probeNames token → p.same (d.join ⟨name⟩) = true →
      w.isProbed d token = false → fs.isFile p = false →
      (isFile fs hook p w).1 = true ∧
      ∃ rule, w.hookState.rule? = some rule ∧ ∀ more,
        (read fs hook p (later p more)).1 = .ok (.text rule) ∧
        ∀ other q, other ∈ probeNames token → other ≠ name → q.same (d.join ⟨other⟩) = true →
          fs.isFile q = false → (isFile fs hook q (later p more)).1 = false) ∧
    (∀ p, (isFile fs hook p w).1 = true → fs.isFile p = false →
      p.extension? = some virtualExtension ∧
      ∃ text, (∀ more, (read fs hook p (later p more)).1 = .ok (.text text)) ∧
        ∃ earlier q rest, before ++ [.isFile p] = earlier ++ .isFile q :: rest ∧
          q.same p = true ∧ (sessionOn fs token o earlier).virtual? p = none ∧
          (p.importReference? = some token ∧
              (sessionOn fs token o earlier).hookState.rule? = some text ∨
            p.importReference? = some o.helperImport ∧ text = Helper.source)) := by
  intro hook w later
  constructor
  · intro d name p hname hp hd hfs
    have hprobe := isProbe_of_same_join ht hname hp
    obtain ⟨rule, hrule⟩ := exists_rule fs token o before
    refine ⟨congrArg Prod.fst (hprobe.isFile_eq hd hfs hrule), rule, hrule, fun more =>
      ⟨hprobe.read_eq hd hfs hrule more, fun other q hother hne hq hqfs => ?_⟩⟩
    exact hprobe.isFile_other (isProbe_of_same_join ht hother hq) hne hd hfs hqfs more
  · intro p hfile hfs
    obtain ⟨text, hserved, hread⟩ := exists_served hfile hfs
    obtain ⟨hextension, hsource⟩ := hserved.rule_or_helper
    exact ⟨hextension, text, hread, hsource⟩

/-- A file with a variable was read and a name probed in the directory before the token. -/
theorem sentinel_served_after_read :
    let token := Marker.someToken
    let fs := singleDisk.fileSystem
    let hook := Interceptor.answer fs
    let before := [Query.read (.ofString "v.scss"), .isFile (.ofString "a/x.scss")]
    let w := sessionOn fs token {} before
    let p := (Path.ofString "a").join ⟨token ++ ".import.scss".toList⟩
    let q := (Path.ofString "a/./").join ⟨"_".toList ++ token ++ ".scss".toList⟩
    let later := fun more => sessionOn fs token {} (before ++ .isFile p :: more)
    isSessionToken token = true ∧ w.isProbed (.ofString "a") token = false ∧
      fs.isFile p = false ∧ fs.isFile q = false ∧ (isFile fs hook p w).1 = true ∧
      ∃ rule, w.hookState.rule? = some rule ∧
        (∀ more, (read fs hook p (later more)).1 = .ok (.text rule)) ∧
        (∀ more, (isFile fs hook q (later more)).1 = false) ∧
        p.extension? = some virtualExtension := by
  intro token fs hook before w p q later
  have ht : isSessionToken token = true := by decide
  have hd : w.isProbed (.ofString "a") token = false := by decide
  have hp : fs.isFile p = false := by decide
  have hq : fs.isFile q = false := by decide
  have h := sentinel_served ht {} fs before
  obtain ⟨hfile, rule, hrule, hserved⟩ := h.1 (.ofString "a") (token ++ ".import.scss".toList) p
    (by simp [probeNames]) (Path.same_refl p) hd hp
  refine ⟨ht, hd, hp, hq, hfile, rule, hrule, fun more => (hserved more).1, fun more => ?_,
    (h.2 p hfile hp).1⟩
  exact (hserved more).2 ("_".toList ++ token ++ ".scss".toList) q (by simp [probeNames])
    (by decide) (by decide) hq

end StyleVars.HookedFiles
