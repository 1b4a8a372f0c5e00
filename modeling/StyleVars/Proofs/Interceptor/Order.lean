import StyleVars.Proofs.Interceptor.Run
import StyleVars.Proofs.Resolve.Candidates

/-
  Imports in another order. While the file system stays as it is, what an import takes up does not
  depend on the imports before it, so the names after a run are those of the texts taken up, in the
  order of the imports (`names_after`). As a set they depend on the set of imports only
  (`run_order_irrelevant`); an import made twice adds nothing the second time.
-/

namespace StyleVars.Interceptor

open Variable (Names tokens)

/-- An import of a reference in an importing file. -/
abbrev Call := Text × Path

/-- A call that asks for neither the token nor the helper. -/
def IsOrdinary (token : Text) (o : Options) (c : Call) : Prop :=
  c.1 ≠ token ∧ c.1 ≠ o.helperImport

instance (token : Text) (o : Options) (c : Call) : Decidable (IsOrdinary token o c) :=
  inferInstanceAs (Decidable (_ ∧ _))

/-- The same reference in the same importing file, however that is spelled. -/
def Call.Alike (c d : Call) : Prop := c.1 = d.1 ∧ c.2.same d.2 = true

instance (c d : Call) : Decidable (c.Alike d) := inferInstanceAs (Decidable (_ ∧ _))

/-- The file a call leads to does not depend on how the importing file is spelled. -/
theorem found?_congr {c d : Call} (h : c.Alike d) (fs : FileSystem) (o : Options) :
    found? fs o c.1 c.2 = found? fs o d.1 d.2 := by
  unfold found?
  rw [h.1, Resolve.candidates_congr d.1 h.2]

/-- The text whose names a call takes up. -/
def takenText? (fs : FileSystem) (token : Text) (o : Options) (c : Call) : Option Text :=
  if IsOrdinary token o c then (found? fs o c.1 c.2).map Prod.snd else none

/-- Which session asks does not matter to what an ordinary call takes up. -/
theorem takenText?_of_ordinary {token : Text} {o : Options} {c : Call}
    (h : IsOrdinary token o c) (fs : FileSystem) :
    takenText? fs token o c = (found? fs o c.1 c.2).map Prod.snd := if_pos h

/-- The state after texts were taken up, but for the visited paths. -/
structure TookUp (token : Text) (o : Options) (texts : List Text) (s : Interceptor) : Prop where
  token_eq : s.token = token
  options_eq : s.options = o
  names_eq : s.names = Names.ofSources texts

variable {fs : FileSystem} {token : Text} {o : Options} {texts : List Text} {s : Interceptor}

/-- One call takes up its text, or nothing. -/
theorem TookUp.answer (h : TookUp token o texts s) (fs : FileSystem) (c : Call) :
    TookUp token o (texts ++ (takenText? fs token o c).toList) (answer fs c.1 c.2 s).2 := by
  have hquiet (hnone : takenText? fs token o c = none) :
      TookUp token o (texts ++ (takenText? fs token o c).toList) s := by
    rw [hnone, Option.toList_none, List.append_nil]
    exact h
  unfold takenText? at hquiet ⊢
  rcases answer_cases fs c.1 c.2 s with
    ⟨htoken, ha⟩ | ⟨-, hhelper, ha⟩ | ⟨-, -, hfound, ha⟩ | ⟨htoken, hhelper, p, t, hfound, ha⟩
  · rw [ha]
    exact hquiet (if_neg fun ho => ho.1 (htoken.trans h.token_eq))
  · rw [ha]
    rw [h.options_eq] at hhelper
    exact hquiet (if_neg fun ho => ho.2 hhelper)
  · rw [ha]
    rw [h.options_eq] at hfound
    refine hquiet ?_
    rw [hfound, Option.map_none, ite_self]
  · rw [h.token_eq] at htoken
    rw [h.options_eq] at hhelper hfound
    rw [ha, if_pos ⟨htoken, hhelper⟩, hfound]
    exact {
      token_eq := h.token_eq
      options_eq := h.options_eq
      names_eq := by
        have hnames : (s.takeUp p t).names = (s.names.scrape t).2 := rfl
        rw [hnames, h.names_eq]
        unfold Names.ofSources
        rw [Option.map_some, Option.toList_some, List.foldl_append]
        rfl }

theorem TookUp.run (h : TookUp token o texts s) (fs : FileSystem) (calls : List Call) :
    TookUp token o (texts ++ calls.filterMap (takenText? fs token o))
      ((Interceptor.answer fs).run calls s).2 := by
  induction calls generalizing texts s with
  | nil => simpa [ImportHook.run] using h
  | cons c calls ih =>
    have hnext := ih (h.answer fs c)
    rw [List.append_assoc] at hnext
    have hcons : (takenText? fs token o c).toList ++ calls.filterMap (takenText? fs token o) =
        (c :: calls).filterMap (takenText? fs token o) := by
      rw [List.filterMap_cons]
      cases takenText? fs token o c <;> rfl
    rw [hcons] at hnext
    exact hnext

/-- The state of a new session's hook after calls. -/
def after (fs : FileSystem) (token : Text) (o : Options) (calls : List Call) : Interceptor :=
  ((answer fs).run calls (start token o)).2

theorem tookUp_after (fs : FileSystem) (token : Text) (o : Options) (calls : List Call) :
    TookUp token o (calls.filterMap (takenText? fs token o)) (after fs token o calls) :=
  have hstart : TookUp token o [] (start token o) := ⟨rfl, rfl, rfl⟩
  hstart.run fs calls

/-- The names after calls are those of the texts taken up, one after the other. -/
theorem names_after (fs : FileSystem) (token : Text) (o : Options) (calls : List Call) :
    (after fs token o calls).names =
      Names.ofSources (calls.filterMap (takenText? fs token o)) :=
  (tookUp_after fs token o calls).names_eq

/-- A name is there exactly if one of the calls took up a text that holds it. -/
theorem mem_names_after {calls : List Call} {name : Text} :
    name ∈ (after fs token o calls).names.toList ↔
      ∃ c ∈ calls, ∃ t, takenText? fs token o c = some t ∧ name ∈ tokens t := by
  rw [names_after, Names.mem_ofSources]
  constructor
  · rintro ⟨t, ht, hname⟩
    obtain ⟨c, hc, hct⟩ := List.mem_filterMap.mp ht
    exact ⟨c, hc, t, hct, hname⟩
  · rintro ⟨c, hc, t, hct, hname⟩
    exact ⟨t, List.mem_filterMap.mpr ⟨c, hc, hct⟩, hname⟩

theorem nodup_names_after (fs : FileSystem) (token : Text) (o : Options) (calls : List Call) :
    (after fs token o calls).names.toList.Nodup := by
  rw [names_after]
  exact (Names.coherent_ofSources _).nodup

/-- The rule after calls: a field for each name. -/
theorem rule?_after (fs : FileSystem) (token : Text) (o : Options) (calls : List Call) :
    (after fs token o calls).rule? =
      some (Payload.ruleOf token (after fs token o calls).names.toList) := by
  unfold rule?
  rw [(tookUp_after fs token o calls).token_eq, names_after]
  exact Payload.rule?_eq (fun _ => Names.isToken_of_mem_ofSources) token

theorem takenText?_congr {c d : Call} (h : c.Alike d) (fs : FileSystem) (token : Text)
    (o : Options) : takenText? fs token o c = takenText? fs token o d := by
  have hordinary : IsOrdinary token o c ↔ IsOrdinary token o d := by
    unfold IsOrdinary
    rw [h.1]
  unfold takenText?
  rw [found?_congr h]
  exact if_congr hordinary rfl rfl

/-- A call that was made before changes no name, nor their order. -/
theorem names_answer_again {calls : List Call} {c d : Call} (hc : c ∈ calls) (h : c.Alike d) :
    (answer fs d.1 d.2 (after fs token o calls)).2.names = (after fs token o calls).names := by
  have hnext := ((tookUp_after fs token o calls).answer fs d).names_eq
  rw [hnext, names_after]
  cases ht : takenText? fs token o d with
  | none => rw [Option.toList_none, List.append_nil]
  | some t =>
    have hmem : t ∈ calls.filterMap (takenText? fs token o) :=
      List.mem_filterMap.mpr ⟨c, hc, (takenText?_congr h fs token o).trans ht⟩
    unfold Names.ofSources
    rw [Option.toList_some, List.foldl_append]
    exact (Names.coherent_ofSources _).insertAll_of_subset fun name hname =>
      Names.mem_ofSources.mpr ⟨t, hmem, hname⟩

/-- Names are found again by calls that include these. -/
theorem names_subset {token' : Text} {calls calls' : List Call}
    (h : ∀ c ∈ calls, IsOrdinary token o c) (h' : ∀ c ∈ calls', IsOrdinary token' o c)
    (hsub : ∀ c ∈ calls, ∃ d ∈ calls', c.Alike d) {name : Text}
    (hname : name ∈ (after fs token o calls).names.toList) :
    name ∈ (after fs token' o calls').names.toList := by
  obtain ⟨c, hc, t, ht, hname⟩ := mem_names_after.mp hname
  obtain ⟨d, hd, hcd⟩ := hsub c hc
  rw [takenText?_of_ordinary (h c hc), found?_congr hcd, ← takenText?_of_ordinary (h' d hd)] at ht
  exact mem_names_after.mpr ⟨d, hd, t, ht, hname⟩

/-- Ordinary calls of two sessions, the same calls in any order and any number of times each, lead
to the same names and to rules whose fields are those of the other, reordered. And whatever the
calls of a session are, making one of them again leaves its names as they were. -/
theorem run_order_irrelevant (fs : FileSystem) (o : Options) {token token' : Text}
    {calls calls' : List Call} (h : ∀ c ∈ calls, IsOrdinary token o c)
    (h' : ∀ c ∈ calls', IsOrdinary token' o c)
    (hsub : ∀ c ∈ calls, ∃ d ∈ calls', c.Alike d) (hsup : ∀ d ∈ calls', ∃ c ∈ calls, d.Alike c) :
    let s := after fs token o calls
    let s' := after fs token' o calls'
    (∀ name, name ∈ s.names.toList ↔ name ∈ s'.names.toList) ∧
    (s.rule? = some (Payload.ruleOf token s.names.toList) ∧
      s'.rule? = some (Payload.ruleOf token' s'.names.toList) ∧
      (s.names.toList.map Payload.fieldOf).Perm (s'.names.toList.map Payload.fieldOf)) ∧
    ∀ (t : Text) (made : List Call), ∀ c ∈ made, ∀ d, c.Alike d →
      (answer fs d.1 d.2 (after fs t o made)).2.names = (after fs t o made).names := by
  intro s s'
  have hnames (name : Text) : name ∈ s.names.toList ↔ name ∈ s'.names.toList :=
    ⟨names_subset h h' hsub, names_subset h' h hsup⟩
  have hperm : s.names.toList.Perm s'.names.toList :=
    (List.perm_ext_iff_of_nodup (nodup_names_after fs token o calls)
      (nodup_names_after fs token' o calls')).mpr hnames
  exact ⟨hnames, ⟨rule?_after fs token o calls, rule?_after fs token' o calls',
    hperm.map Payload.fieldOf⟩, fun t made c hc d hd => names_answer_again hc hd⟩

/-- A partial and a plain file in one directory. -/
def pairFiles : FileSystem where
  workingDirectory := .ofString "/w"
  isFile p := p = .ofString "/w/_a.scss" || p = .ofString "/w/b.scss"
  isDirectory p := p = .ofString "/w"
  read p :=
    if p = .ofString "/w/_a.scss" then .ok (.text "$x".toList)
    else if p = .ofString "/w/b.scss" then .ok (.text "$y".toList)
    else .error .notFound

/-- The two files imported in either order, one of them twice, from a file in three spellings. -/
theorem run_order_irrelevant_pair :
    let calls : List Call := [("a".toList, .ofString "/w/m.scss"),
      ("b".toList, .ofString "/w/m.scss"), ("a".toList, .ofString "/w//m.scss")]
    let calls' : List Call := [("b".toList, .ofString "/w/./m.scss"),
      ("a".toList, .ofString "/w/m.scss")]
    let s := after pairFiles (sessionToken 1) {} calls
    let s' := after pairFiles (sessionToken 2) {} calls'
    (∀ c ∈ calls, IsOrdinary (sessionToken 1) {} c) ∧
      (∀ c ∈ calls', IsOrdinary (sessionToken 2) {} c) ∧
      (∀ c ∈ calls, ∃ d ∈ calls', c.Alike d) ∧ (∀ d ∈ calls', ∃ c ∈ calls, d.Alike c) ∧
      "$x".toList ∈ s.names.toList ∧ "$x".toList ∈ s'.names.toList ∧
      (s.names.toList.map Payload.fieldOf).Perm (s'.names.toList.map Payload.fieldOf) ∧
      (answer pairFiles "a".toList (.ofString "/w/./m.scss") s).2.names = s.names := by
  intro calls calls' s s'
  have h : ∀ c ∈ calls, IsOrdinary (sessionToken 1) {} c := by decide
  have h' : ∀ c ∈ calls', IsOrdinary (sessionToken 2) {} c := by decide
  have hsub : ∀ c ∈ calls, ∃ d ∈ calls', c.Alike d := by decide
  have hsup : ∀ d ∈ calls', ∃ c ∈ calls, d.Alike c := by decide
  have hx : "$x".toList ∈ s.names.toList := by
    have hrun : Variable.unitRun "x".toList = ("x".toList, []) := by decide
    have htoken : Variable.tokens "$x".toList = ["$x".toList] :=
      (Variable.tokens_of_unitRun (by decide) hrun).trans
        (congrArg _ (Variable.tokens_of_notMem (by decide)))
    refine mem_names_after.mpr ⟨_, List.mem_cons_self, "$x".toList, ?_, ?_⟩
    · decide
    · rw [htoken]
      exact List.mem_cons_self
  obtain ⟨hnames, ⟨-, -, hperm⟩, hagain⟩ :=
    run_order_irrelevant pairFiles {} h h' hsub hsup
  exact ⟨h, h', hsub, hsup, hx, (hnames _).mp hx, hperm,
    hagain (sessionToken 1) calls ("a".toList, .ofString "/w/m.scss") List.mem_cons_self
      ("a".toList, .ofString "/w/./m.scss") (by decide)⟩

end StyleVars.Interceptor
