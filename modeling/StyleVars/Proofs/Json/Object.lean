import Mathlib.Data.List.Induction
import StyleVars.Proofs.Json.Spelling
import StyleVars.Proofs.Variable.Names

/-
  The fields of an object text. The text lists members, in which a name may come back; the object
  has each name once, at the place of its first member and with the value of its last
  (`merged_ofMembers`), and that says all about its fields (`Merged.unique`). A text is read as an
  object exactly if it lists members (`read?_eq_object`).
-/

namespace StyleVars.Json

open Variable (eraseDups_append_left eraseDups_concat_of_mem eraseDups_concat_of_notMem
  nodup_eraseDups)

/-! ## Repeated names -/

section Repeated

variable {α : Type}

/-- The fields hold the name of every member once, in the order of their first places, and with
the value at its last. -/
structure Merged (members fields : List (Text × α)) : Prop where
  names_eq : fields.map Prod.fst = (members.map Prod.fst).eraseDups
  lookup_eq : ∀ name, fields.lookup name = members.reverse.lookup name

theorem lookup_field (name : Text) (f : Text × α) (fields : List (Text × α)) :
    (f :: fields).lookup name = if name = f.1 then some f.2 else fields.lookup name := by
  rw [List.lookup_cons]
  by_cases h : name = f.1
  · rw [beq_iff_eq.mpr h, if_pos h]
  · rw [beq_eq_false_iff_ne.mpr h, if_neg h]

theorem map_fst_put (name : Text) (v : α) (fields : List (Text × α)) :
    (put name v fields).map Prod.fst =
      if name ∈ fields.map Prod.fst then fields.map Prod.fst
      else fields.map Prod.fst ++ [name] := by
  induction fields with
  | nil => rfl
  | cons f fields ih =>
    obtain ⟨n, w⟩ := f
    rw [put]
    by_cases hn : n = name
    · subst hn
      simp
    · rw [if_neg hn, List.map_cons, ih, List.map_cons]
      by_cases hmem : name ∈ fields.map Prod.fst
      · rw [if_pos hmem, if_pos (List.mem_cons_of_mem n hmem)]
      · rw [if_neg hmem, if_neg (by simp [Ne.symm hn, hmem])]
        rfl

theorem lookup_put (name other : Text) (v : α) (fields : List (Text × α)) :
    (put name v fields).lookup other =
      if other = name then some v else fields.lookup other := by
  induction fields with
  | nil =>
    rw [put, lookup_field]
  | cons f fields ih =>
    obtain ⟨n, w⟩ := f
    rw [put, lookup_field]
    by_cases hn : n = name
    · subst hn
      rw [if_pos rfl, lookup_field]
      by_cases h : other = n
      · rw [if_pos h, if_pos h]
      · rw [if_neg h, if_neg h, if_neg h]
    · rw [if_neg hn, lookup_field, ih]
      by_cases h : other = n
      · rw [if_pos h, if_neg fun he => hn (h.symm.trans he), if_pos h]
      · rw [if_neg h, if_neg h]

theorem Merged.put {members fields : List (Text × α)} (h : Merged members fields)
    (m : Text × α) : Merged (members ++ [m]) (Json.put m.1 m.2 fields) where
  names_eq := by
    have hnodup := nodup_eraseDups (members.map Prod.fst)
    rw [map_fst_put, h.names_eq, List.map_append, ← eraseDups_append_left]
    by_cases hm : m.1 ∈ (members.map Prod.fst).eraseDups
    · rw [if_pos hm, List.map_singleton, eraseDups_concat_of_mem hnodup hm]
    · rw [if_neg hm, List.map_singleton, eraseDups_concat_of_notMem hnodup hm]
  lookup_eq name := by
    rw [lookup_put, h.lookup_eq, List.reverse_append, List.reverse_singleton,
      List.singleton_append, lookup_field]

/-- Members are merged by taking them up one after the other. -/
theorem merged_ofMembers (members : List (Text × α)) : Merged members (ofMembers members) := by
  induction members using List.reverseRecOn with
  | nil => exact ⟨rfl, fun _ => rfl⟩
  | append_singleton members m ih =>
    have hput : ofMembers (members ++ [m]) = Json.put m.1 m.2 (ofMembers members) := by
      unfold ofMembers
      rw [List.foldl_append]
      rfl
    rw [hput]
    exact ih.put m

theorem lookup_eq_none {fields : List (Text × α)} {name : Text}
    (h : name ∉ fields.map Prod.fst) : fields.lookup name = none := by
  rw [List.lookup_eq_none_iff]
  intro f hf
  have hne : name ≠ f.1 := fun he => h (he ▸ List.mem_map_of_mem hf)
  exact bne_iff_ne.mpr hne

/-- Fields with distinct names are determined by their names and the values under them. -/
theorem eq_of_lookup {fields others : List (Text × α)}
    (hnames : fields.map Prod.fst = others.map Prod.fst) (hnodup : (fields.map Prod.fst).Nodup)
    (h : ∀ name, fields.lookup name = others.lookup name) : fields = others := by
  induction fields generalizing others with
  | nil => exact (List.map_eq_nil_iff.mp hnames.symm).symm
  | cons f fields ih =>
    cases others with
    | nil => cases hnames
    | cons g others =>
      obtain ⟨hname, hrest⟩ := List.cons.inj hnames
      obtain ⟨hf, hnodup⟩ := List.nodup_cons.mp hnodup
      have hvalue : f.2 = g.2 := by
        have hhead := h f.1
        rw [lookup_field, lookup_field, if_pos rfl, if_pos hname] at hhead
        exact Option.some.inj hhead
      have htail : fields = others := by
        refine ih hrest hnodup fun name => ?_
        have hboth := h name
        rw [lookup_field, lookup_field, ← hname] at hboth
        by_cases hn : name = f.1
        · subst hn
          rw [lookup_eq_none hf, lookup_eq_none (hrest ▸ hf)]
        · rwa [if_neg hn, if_neg hn] at hboth
      rw [htail, Prod.ext hname hvalue]

/-- There is one way to merge members. -/
theorem Merged.unique {members fields others : List (Text × α)} (h : Merged members fields)
    (h' : Merged members others) : fields = others := by
  refine eq_of_lookup (h.names_eq.trans h'.names_eq.symm) ?_ fun name =>
    (h.lookup_eq name).trans (h'.lookup_eq name).symm
  rw [h.names_eq]
  exact nodup_eraseDups _

end Repeated

/-! ## Object texts -/

/-- The members of an object after its opening brace, and what follows the closing one. -/
def objectRest (fuel levels : Nat) (t : Text) : Option (List (Text × Json) × Text) :=
  match dropBlanks t with
  | '\x7d' :: r => some ([], r)
  | r => members fuel levels r

/-- The members that the text of an object lists, in order and with repeated names. -/
def objectMembers? (t : Text) : Option (List (Text × Json)) :=
  match dropBlanks t with
  | '\x7b' :: r =>
    (objectRest (stepsFor t - 1) (nestingLimit - 1) r).bind fun (ms, r) =>
      if (dropBlanks r).isEmpty then some ms else none
  | _ => none

theorem objectMembers?_brace {t u : Text} (h : dropBlanks t = '\x7b' :: u) :
    objectMembers? t =
      (objectRest (stepsFor t - 1) (nestingLimit - 1) u).bind fun (ms, r) =>
        if (dropBlanks r).isEmpty then some ms else none := by
  unfold objectMembers?
  rw [h]
  rfl

theorem objectMembers?_of_members {ms : List (Text × Json)} {t s : Text} (hs : t = '"' :: s)
    (h : members (stepsFor ('\x7b' :: t) - 1) (nestingLimit - 1) t = some (ms, [])) :
    objectMembers? ('\x7b' :: t) = some ms := by
  have hquote : objectRest (stepsFor ('\x7b' :: t) - 1) (nestingLimit - 1) t =
      members (stepsFor ('\x7b' :: t) - 1) (nestingLimit - 1) t := by
    rw [hs]
    rfl
  rw [objectMembers?_brace rfl, hquote, h]
  rfl

/-- An object text with members in it lists these, whatever their names are. -/
theorem objectMembers?_spelling {ms : List (Text × Json)} {t : Text}
    (h : FieldsSpelling (nestingLimit - 1) ms t) : objectMembers? ('\x7b' :: t) = some ms := by
  obtain ⟨s, hs⟩ := h.eq_quote
  have hlength : t.length ≤ stepsFor ('\x7b' :: t) - 1 := by
    rw [stepsFor, List.length_cons]
    omega
  have hread := (spelling_read _).2.2 [] h hlength
  rw [List.append_nil] at hread
  exact objectMembers?_of_members hs hread

theorem number_ne_object {t r : Text} {fields : List (Text × Json)} :
    number t ≠ some (.object fields, r) := by
  have hfloat {v : Json} {x : Option Binary64} (h : x.map Json.float = some v) :
      v ≠ .object fields := by
    obtain ⟨y, -, rfl⟩ := Option.map_eq_some_iff.mp h
    intro he
    cases he
  have hinteger {negative : Bool} {whole : Text} {v : Json}
      (h : integerOf? negative whole = some v) : v ≠ .object fields := by
    unfold integerOf? at h
    dsimp only at h
    split at h
    · split at h
      · cases h
        intro he
        cases he
      · exact hfloat h
    · split at h
      · cases h
        intro he
        cases he
      · exact hfloat h
  intro h
  unfold number at h
  dsimp only at h
  split at h
  · cases h
  · obtain ⟨v, hv, he⟩ := Option.map_eq_some_iff.mp h
    exact hinteger hv (Prod.mk.inj he).1
  · obtain ⟨v, hv, he⟩ := Option.map_eq_some_iff.mp h
    cases (Prod.mk.inj he).1

theorem word_ne_object {w t r : Text} {v : Json} {fields : List (Text × Json)}
    (hv : v ≠ .object fields) : word w v t ≠ some (.object fields, r) := by
  intro h
  obtain ⟨u, -, he⟩ := Option.map_eq_some_iff.mp h
  exact hv (Prod.mk.inj he).1

theorem value_brace {fuel n : Nat} {t u : Text} (h : dropBlanks t = '\x7b' :: u) :
    value (fuel + 1) (n + 1) t =
      (objectRest fuel n u).map fun (ms, r) => (.object (ofMembers ms), r) := by
  have hvalue : value (fuel + 1) (n + 1) t = match dropBlanks u with
      | '\x7d' :: r => some (.object [], r)
      | r => (members fuel n r).map fun (ms, r) => (.object (ofMembers ms), r) := by
    rw [value, h]
    rfl
  rw [hvalue]
  unfold objectRest
  split
  · rfl
  · rfl

/-- Only a brace opens an object. -/
theorem value_ne_object {fuel n : Nat} {t r : Text} {fields : List (Text × Json)}
    (h : ∀ u, dropBlanks t ≠ '\x7b' :: u) :
    value (fuel + 1) (n + 1) t ≠ some (.object fields, r) := by
  rw [value]
  split
  case h_1 => exact word_ne_object (by simp)
  case h_2 => exact word_ne_object (by simp)
  case h_3 => exact word_ne_object (by simp)
  case h_4 =>
    intro hstring
    obtain ⟨_, -, he⟩ := Option.map_eq_some_iff.mp hstring
    cases (Prod.mk.inj he).1
  case h_5 =>
    rw [if_neg (Nat.succ_ne_zero n)]
    split
    · intro he
      cases (Prod.mk.inj (Option.some.inj he)).1
    · intro hitems
      obtain ⟨_, -, he⟩ := Option.map_eq_some_iff.mp hitems
      cases (Prod.mk.inj he).1
  case h_6 he => exact absurd he (h _)
  case h_7 => exact number_ne_object

theorem merged_iff {ms fields : List (Text × Json)} : Merged ms fields ↔ ofMembers ms = fields :=
  ⟨fun h => (merged_ofMembers ms).unique h, fun h => h ▸ merged_ofMembers ms⟩

/-- A text is read as an object exactly if it lists members, and then as these, merged. -/
theorem read?_eq_object {t : Text} {fields : List (Text × Json)} :
    read? t = some (.object fields) ↔ ∃ ms, objectMembers? t = some ms ∧ Merged ms fields := by
  by_cases hbrace : ∃ u, dropBlanks t = '\x7b' :: u
  · obtain ⟨u, hu⟩ := hbrace
    have hvalue : value (stepsFor t) nestingLimit t =
        (objectRest (stepsFor t - 1) (nestingLimit - 1) u).map
          fun (ms, r) => (.object (ofMembers ms), r) := value_brace hu
    rw [objectMembers?_brace hu]
    unfold read?
    rw [hvalue]
    rcases objectRest (stepsFor t - 1) (nestingLimit - 1) u with - | ⟨ms, r⟩
    · simp
    · rw [Option.map_some, Option.bind_some]
      dsimp only
      by_cases hr : (dropBlanks r).isEmpty = true
      · rw [if_pos hr, if_pos hr]
        simp [merged_iff]
      · rw [if_neg hr, if_neg hr]
        simp
  · rw [not_exists] at hbrace
    constructor
    · intro h
      unfold read? at h
      split at h
      · next v r hv =>
        split at h
        · obtain rfl := Option.some.inj h
          exact absurd hv (value_ne_object hbrace)
        · cases h
      · cases h
    · rintro ⟨ms, hms, -⟩
      unfold objectMembers? at hms
      split at hms
      · next u hu => exact absurd hu (hbrace u)
      · cases hms

/-- A text lists no members exactly if it is not read as an object. -/
theorem objectMembers?_eq_none {t : Text} :
    objectMembers? t = none ↔ ∀ fields, read? t ≠ some (.object fields) := by
  constructor
  · intro h fields hread
    obtain ⟨ms, hms, -⟩ := read?_eq_object.mp hread
    rw [h] at hms
    cases hms
  · intro h
    rw [Option.eq_none_iff_forall_ne_some]
    intro ms hms
    exact h _ (read?_eq_object.mpr ⟨ms, hms, merged_ofMembers ms⟩)

end StyleVars.Json
