import StyleVars.Interceptor
import StyleVars.Proofs.Payload.Rule
import StyleVars.Proofs.Variable.Names

/-
  Runs of a session's import hook. The file system may change between two imports, so an import
  carries the answers of its own moment. `answer_cases` says all that one import can do: answer the
  rule or the helper, decline, or take up one file. `Recorded` is the invariant of a run: the
  visited paths and the names are those of the files taken up so far, and nothing else.
-/

namespace StyleVars.Interceptor

open Variable (IsToken)

/-! ## One import -/

/-- An import the hook is asked about, and the file system as it is at that moment. -/
structure Import where
  fs : FileSystem
  reference : Text
  importing : Path

/-- The answer to an import, and the state after it. -/
def Import.ask (i : Import) (s : Interceptor) : Answer × Interceptor :=
  answer i.fs i.reference i.importing s

/-- The file an ordinary reference leads to, if there is one that can be read, and its text. -/
def found? (fs : FileSystem) (o : Options) (reference : Text) (importing : Path) :
    Option (Path × Text) :=
  match Resolve.first fs reference
      (Resolve.candidates reference importing o.searchRoots o.extension) with
  | .error _ => none
  | .ok p =>
    match fs.readText p with
    | .error _ => none
    | .ok t => some (p, t)

/-- The state after a file was taken up. -/
def takeUp (s : Interceptor) (p : Path) (t : Text) : Interceptor :=
  { s with names := (s.names.scrape t).2, visited := s.visited ++ [p] }

theorem visit_eq (fs : FileSystem) (reference : Text) (importing : Path) (s : Interceptor) :
    s.visit fs reference importing =
      match found? fs s.options reference importing with
      | none => (.declined, s)
      | some (p, t) => (.resolved p, s.takeUp p t) := by
  unfold visit found?
  dsimp only
  generalize Resolve.first fs reference _ = place
  cases place with
  | error => rfl
  | ok p =>
    dsimp only
    cases fs.readText p <;> rfl

theorem first_eq_ok {fs : FileSystem} {reference : Text} {cs : List Path} {p : Path}
    (h : Resolve.first fs reference cs = .ok p) : fs.isFile p = true ∧ p ∈ cs := by
  unfold Resolve.first at h
  split at h
  · next q hq =>
    obtain rfl := Except.ok.inj h
    exact ⟨List.find?_some hq, List.mem_of_find?_eq_some hq⟩
  · cases h

theorem found?_eq_some {fs : FileSystem} {o : Options} {reference : Text} {importing p : Path}
    {t : Text} (h : found? fs o reference importing = some (p, t)) :
    fs.isFile p = true ∧ fs.readText p = .ok t := by
  unfold found? at h
  split at h
  · cases h
  · next q hq =>
    split at h
    · cases h
    · next u hu =>
      obtain ⟨rfl, rfl⟩ := Prod.mk.inj (Option.some.inj h)
      exact ⟨(first_eq_ok hq).1, hu⟩

/-- The hook can answer in four ways; only taking up a file changes its state. -/
theorem answer_cases (fs : FileSystem) (reference : Text) (importing : Path) (s : Interceptor) :
    (reference = s.token ∧
      answer fs reference importing s = ((s.rule?.map Answer.source).getD .declined, s)) ∨
    (reference ≠ s.token ∧ reference = s.options.helperImport ∧
      answer fs reference importing s = (.source Helper.source, s)) ∨
    (reference ≠ s.token ∧ reference ≠ s.options.helperImport ∧
      found? fs s.options reference importing = none ∧
      answer fs reference importing s = (.declined, s)) ∨
    (reference ≠ s.token ∧ reference ≠ s.options.helperImport ∧
      ∃ p t, found? fs s.options reference importing = some (p, t) ∧
        answer fs reference importing s = (.resolved p, s.takeUp p t)) := by
  unfold answer
  by_cases htoken : reference = s.token
  · exact Or.inl ⟨htoken, if_pos htoken⟩
  by_cases hhelper : reference = s.options.helperImport
  · exact Or.inr (Or.inl ⟨htoken, hhelper, by rw [if_neg htoken, if_pos hhelper]⟩)
  rw [if_neg htoken, if_neg hhelper, visit_eq]
  cases hfound : found? fs s.options reference importing with
  | none => exact Or.inr (Or.inr (Or.inl ⟨htoken, hhelper, rfl, rfl⟩))
  | some f => exact Or.inr (Or.inr (Or.inr ⟨htoken, hhelper, f.1, f.2, rfl, rfl⟩))

/-- Only the token and the helper's name are answered with a source. -/
theorem answer_ne_source {fs : FileSystem} {reference : Text} {importing : Path}
    {s : Interceptor} (htoken : reference ≠ s.token) (hhelper : reference ≠ s.options.helperImport)
    (t : Text) : (answer fs reference importing s).1 ≠ .source t := by
  rcases answer_cases fs reference importing s with
    ⟨he, -⟩ | ⟨-, he, -⟩ | ⟨-, -, -, ha⟩ | ⟨-, -, p, u, -, ha⟩
  · exact absurd he htoken
  · exact absurd he hhelper
  · rw [ha]
    intro hc
    cases hc
  · rw [ha]
    intro hc
    cases hc

/-- The names after an import that no source answers: those before, and those of the text found. -/
theorem mem_names_answer {fs : FileSystem} {reference : Text} {importing : Path}
    {s : Interceptor} (hs : s.names.Coherent)
    (h : ∀ t, (answer fs reference importing s).1 ≠ .source t)
    (htoken : ∃ t, s.rule? = some t) {v : Text} :
    v ∈ (answer fs reference importing s).2.names.toList ↔
      v ∈ s.names.toList ∨ ∃ u,
        (found? fs s.options reference importing).map Prod.snd = some u ∧
          v ∈ Variable.tokens u := by
  rcases answer_cases fs reference importing s with
    ⟨-, ha⟩ | ⟨-, -, ha⟩ | ⟨-, -, hfound, ha⟩ | ⟨-, -, p, t, hfound, ha⟩
  · obtain ⟨t, ht⟩ := htoken
    rw [ha, ht] at h
    exact absurd rfl (h t)
  · rw [ha] at h
    exact absurd rfl (h Helper.source)
  · rw [ha, hfound]
    simp
  · rw [ha, hfound]
    have hnames : (s.takeUp p t).names = (s.names.scrape t).2 := rfl
    rw [hnames, hs.mem_scrape]
    simp

/-! ## Runs -/

/-- Imports one after the other: each with its answer, and the state at the end. -/
def run : List Import → Interceptor → List (Import × Answer) × Interceptor
  | [], s => ([], s)
  | i :: imports, s =>
    let (a, s) := i.ask s
    let (log, s) := run imports s
    ((i, a) :: log, s)

/-- The path of an answer that resolved the import. -/
def resolvedPath? : Answer → Option Path
  | .resolved p => some p
  | _ => none

/-- The paths answered as resolved, in order. -/
def resolvedPaths (log : List (Import × Answer)) : List Path :=
  log.filterMap fun e => resolvedPath? e.2

/-- The texts behind the paths answered as resolved, each as it was when it was answered. -/
def resolvedTexts (log : List (Import × Answer)) : List Text :=
  log.filterMap fun e => (resolvedPath? e.2).bind fun p => (e.1.fs.readText p).toOption

/-- What a log says about the state it leads to from a fresh hook. -/
structure Recorded (token : Text) (o : Options) (log : List (Import × Answer))
    (s : Interceptor) : Prop where
  token_eq : s.token = token
  options_eq : s.options = o
  visited_eq : s.visited = resolvedPaths log
  resolved : ∀ i p, (i, Answer.resolved p) ∈ log →
    i.fs.isFile p = true ∧ ∃ t, i.fs.readText p = .ok t
  coherent : s.names.Coherent
  names_eq : s.names.toList = ((resolvedTexts log).flatMap Variable.tokens).eraseDups

theorem recorded_start (token : Text) (o : Options) : Recorded token o [] (start token o) where
  token_eq := rfl
  options_eq := rfl
  visited_eq := rfl
  resolved _ _ h := by cases h
  coherent := Variable.Names.coherent_empty
  names_eq := rfl

variable {token : Text} {o : Options} {log : List (Import × Answer)} {s : Interceptor}

/-- An answer that resolves nothing leaves nothing to record. -/
theorem Recorded.quiet (h : Recorded token o log s) (i : Import) {a : Answer}
    (ha : resolvedPath? a = none) : Recorded token o (log ++ [(i, a)]) s where
  token_eq := h.token_eq
  options_eq := h.options_eq
  visited_eq := by
    rw [h.visited_eq]
    simp [resolvedPaths, ha]
  resolved j p hj := by
    rcases List.mem_append.mp hj with hj | hj
    · exact h.resolved j p hj
    · obtain ⟨-, rfl⟩ := Prod.mk.inj (List.mem_singleton.mp hj)
      cases ha
  coherent := h.coherent
  names_eq := by
    rw [h.names_eq]
    simp [resolvedTexts, ha]

theorem Recorded.takeUp (h : Recorded token o log s) (i : Import) {p : Path} {t : Text}
    (hfound : found? i.fs o i.reference i.importing = some (p, t)) :
    Recorded token o (log ++ [(i, .resolved p)]) (s.takeUp p t) := by
  obtain ⟨hfile, hread⟩ := found?_eq_some hfound
  have htexts : resolvedTexts (log ++ [(i, .resolved p)]) = resolvedTexts log ++ [t] := by
    simp [resolvedTexts, resolvedPath?, hread, Except.toOption]
  exact {
    token_eq := h.token_eq
    options_eq := h.options_eq
    visited_eq := by
      unfold Interceptor.takeUp
      rw [h.visited_eq]
      simp [resolvedPaths, resolvedPath?]
    resolved := by
      intro j q hj
      rcases List.mem_append.mp hj with hj | hj
      · exact h.resolved j q hj
      · obtain ⟨rfl, hq⟩ := Prod.mk.inj (List.mem_singleton.mp hj)
        obtain rfl := Answer.resolved.inj hq
        exact ⟨hfile, t, hread⟩
    coherent := h.coherent.scrape t
    names_eq := by
      unfold Interceptor.takeUp
      rw [h.coherent.toList_scrape, h.names_eq, htexts, List.flatMap_append,
        Variable.eraseDups_append_left, List.flatMap_singleton] }

theorem Recorded.names_isToken (h : Recorded token o log s) :
    ∀ name ∈ s.names.toList, IsToken name := by
  intro name hname
  rw [h.names_eq, List.mem_eraseDups] at hname
  obtain ⟨t, -, ht⟩ := List.mem_flatMap.mp hname
  exact Variable.isToken_of_mem_tokens ht

theorem Recorded.rule?_eq (h : Recorded token o log s) :
    s.rule? = some (Payload.ruleOf token s.names.toList) := by
  unfold rule?
  rw [Payload.rule?_eq h.names_isToken, h.token_eq]

/-- The session token is answered with the rule over the names so far: it always exists. -/
theorem Recorded.ask_token (h : Recorded token o log s) {i : Import} (hi : i.reference = token) :
    i.ask s = (.source (Payload.ruleOf token s.names.toList), s) := by
  unfold Import.ask answer
  rw [if_pos (hi.trans h.token_eq.symm), h.rule?_eq]
  rfl

/-- One import keeps the record. -/
theorem Recorded.ask (h : Recorded token o log s) (i : Import) :
    Recorded token o (log ++ [(i, (i.ask s).1)]) (i.ask s).2 := by
  by_cases hi : i.reference = token
  · rw [h.ask_token hi]
    exact h.quiet i rfl
  unfold Import.ask
  rcases answer_cases i.fs i.reference i.importing s with
    ⟨htoken, -⟩ | ⟨-, -, ha⟩ | ⟨-, -, -, ha⟩ | ⟨-, -, p, t, hfound, ha⟩
  · exact absurd (htoken.trans h.token_eq) hi
  · rw [ha]
    exact h.quiet i rfl
  · rw [ha]
    exact h.quiet i rfl
  · rw [ha]
    rw [h.options_eq] at hfound
    exact h.takeUp i hfound

theorem Recorded.run (h : Recorded token o log s) (imports : List Import) :
    Recorded token o (log ++ (run imports s).1) (run imports s).2 := by
  induction imports generalizing log s with
  | nil => simpa [Interceptor.run] using h
  | cons i imports ih =>
    have hnext := ih (h.ask i)
    rw [List.append_assoc, List.singleton_append] at hnext
    exact hnext

/-- Every run of a fresh hook is recorded by its own log. -/
theorem recorded_run (token : Text) (o : Options) (imports : List Import) :
    Recorded token o (run imports (start token o)).1 (run imports (start token o)).2 :=
  (recorded_start token o).run imports

/-- An import that is declined, or that asks for the token or the helper, changes nothing. -/
theorem Recorded.ask_snd_of_unresolved (h : Recorded token o log s) {i : Import}
    (hi : (i.ask s).1 = .declined ∨ i.reference = token ∨ i.reference = o.helperImport) :
    (i.ask s).2 = s := by
  by_cases htoken : i.reference = token
  · rw [h.ask_token htoken]
  unfold Import.ask at hi ⊢
  rcases answer_cases i.fs i.reference i.importing s with
    ⟨ht, -⟩ | ⟨-, -, ha⟩ | ⟨-, -, -, ha⟩ | ⟨-, hhelper, p, t, -, ha⟩
  · exact absurd (ht.trans h.token_eq) htoken
  · rw [ha]
  · rw [ha]
  · rw [h.options_eq] at hhelper
    rw [ha] at hi
    rcases hi with hi | hi | hi
    · cases hi
    · exact absurd hi htoken
    · exact absurd hi hhelper

theorem run_map_fst (imports : List Import) (s : Interceptor) :
    (run imports s).1.map Prod.fst = imports := by
  induction imports generalizing s with
  | nil => rfl
  | cons i imports ih => exact congrArg (i :: ·) (ih (i.ask s).2)

/-- After every run of a fresh hook, and so after every step of a run: the visited paths are the
paths answered as resolved, each a readable file when it was answered; the names are the tokens of
the texts read for them, first occurrences only; and of the next import we know that it leaves
both alone if it is declined or asks for the token or the helper, and that the token is answered
with the rule that has one field for each of these names, in order. -/
theorem run_invariant (token : Text) (o : Options) (imports : List Import) :
    let log := (run imports (start token o)).1
    let s := (run imports (start token o)).2
    log.map Prod.fst = imports ∧
    (s.visited = resolvedPaths log ∧ ∀ i p, (i, Answer.resolved p) ∈ log →
      i.fs.isFile p = true ∧ ∃ t, i.fs.readText p = .ok t) ∧
    (s.names.toList = ((resolvedTexts log).flatMap Variable.tokens).eraseDups ∧
      s.names.toList.Nodup) ∧
    (∀ i : Import, (i.ask s).1 = .declined ∨ i.reference = token ∨ i.reference = o.helperImport →
      (i.ask s).2.names = s.names ∧ (i.ask s).2.visited = s.visited) ∧
    ∀ i : Import, i.reference = token →
      (i.ask s).1 = .source (Payload.ruleOf token s.names.toList) := by
  intro log s
  have h : Recorded token o log s := recorded_run token o imports
  refine ⟨run_map_fst imports _, ⟨h.visited_eq, h.resolved⟩, ⟨h.names_eq, h.coherent.nodup⟩,
    ?_, ?_⟩
  · intro i hi
    rw [h.ask_snd_of_unresolved hi]
    exact ⟨rfl, rfl⟩
  · intro i hi
    rw [h.ask_token hi]

end StyleVars.Interceptor
