import Mathlib.Data.List.DropRight
import StyleVars.Proofs.Path.Components

/-
  Directories and names, for paths of every kind. A path is made of what its first piece starts
  and what its pieces name (`components_of_text`); joining to a directory adds what the pieces of
  the other path name (`components_join`), and the directory of a path is the path without its last
  component (`components_directory_eq`). So paths with the same components lie in the same
  directory, and the same path joined to them leads to the same place.
-/

namespace StyleVars.Path

/-! ## Pieces -/

/-- How a path starts whose text has this first piece and is not empty. -/
def startOf : Text → Start
  | [] => .root
  | ['.'] => .here
  | _ => .plain

/-- The three ways a text is taken apart. Only the empty text is plain and starts with a void
piece. -/
theorem parts_cases (p : Path) :
    (∃ s ss, Text.splitAt '/' p.text = [] :: s :: ss ∧ p.parts = ⟨.root, s :: ss⟩) ∨
    (∃ ss, Text.splitAt '/' p.text = ['.'] :: ss ∧ p.parts = ⟨.here, ss⟩) ∨
    (p.text = [] ∧ p.parts = ⟨.plain, [[]]⟩) ∨
    (∃ s ss, Text.splitAt '/' p.text = s :: ss ∧ p.parts = ⟨.plain, s :: ss⟩ ∧
      startOf s = .plain) := by
  unfold parts
  split
  · next s ss h => exact .inl ⟨s, ss, h, rfl⟩
  · next ss h => exact .inr (.inl ⟨ss, h, rfl⟩)
  next hroot hhere =>
    obtain ⟨s, ss, h⟩ := Text.splitAt_eq_cons '/' p.text
    rw [h] at hroot hhere ⊢
    refine .inr (.inr ?_)
    by_cases hs : startOf s = .plain
    · exact .inr ⟨s, ss, rfl, rfl, hs⟩
    · left
      unfold startOf at hs
      split at hs
      · cases ss with
        | nil =>
          have htext : Text.joinWith ['/'] (Text.splitAt '/' p.text) = p.text :=
            List.intercalate_splitOn '/'
          rw [h] at htext
          exact ⟨htext.symm, rfl⟩
        | cons t ts => exact absurd rfl (hroot t ts)
      · exact absurd rfl (hhere ss)
      · exact absurd rfl hs

theorem mem_splitAt_of_mem_segments {p : Path} {s : Text} (h : s ∈ p.parts.segments) :
    s ∈ Text.splitAt '/' p.text := by
  rcases parts_cases p with ⟨t, ts, hp, hq⟩ | ⟨ts, hp, hq⟩ | ⟨hp, hq⟩ | ⟨t, ts, hp, hq, -⟩
  · rw [hq] at h
    rw [hp]
    exact List.mem_cons_of_mem [] h
  · rw [hq] at h
    rw [hp]
    exact List.mem_cons_of_mem ['.'] h
  · rw [hq] at h
    rw [hp]
    exact h
  · rw [hq] at h
    rw [hp]
    exact h

theorem notMem_of_mem_segments {p : Path} {s : Text} (h : s ∈ p.parts.segments) : '/' ∉ s :=
  Text.notMem_of_mem_splitAt (mem_splitAt_of_mem_segments h)

/-- The names among the components are pieces. -/
theorem mem_segments_of_name {p : Path} {n : Text} (h : Component.name n ∈ p.components) :
    n ∈ p.parts.segments ∧ isVoid n = false ∧ n ≠ ['.', '.'] := by
  have hsegment : Component.name n ∈ p.parts.segments.filterMap component? := by
    rcases List.mem_append.mp h with hstart | hsegment
    · cases hkind : p.parts.start <;> rw [hkind] at hstart <;> simp [Start.components] at hstart
    · exact hsegment
  obtain ⟨s, hs, hname⟩ := List.mem_filterMap.mp hsegment
  unfold component? at hname
  split at hname
  · cases hname
  next hvoid =>
    split at hname
    · cases hname
    next hup =>
      obtain rfl : s = n := by simpa using hname
      exact ⟨hs, by simpa using hvoid, hup⟩

/-- Void pieces name nothing, so the first piece counts among the others whatever it starts. -/
theorem components_of_text {p : Path} {s : Text} {ss : List Text} (hp : p.text ≠ [])
    (h : Text.splitAt '/' p.text = s :: ss) :
    p.components = (startOf s).components ++ (s :: ss).filterMap component? := by
  unfold components
  rcases parts_cases p with ⟨t, ts, ht, hq⟩ | ⟨ts, ht, hq⟩ | ⟨ht, -⟩ | ⟨t, ts, ht, hq, hplain⟩
  · obtain ⟨rfl, rfl⟩ := List.cons.inj (h.symm.trans ht)
    rw [hq]
    rfl
  · obtain ⟨rfl, rfl⟩ := List.cons.inj (h.symm.trans ht)
    rw [hq]
    rfl
  · exact absurd ht hp
  · obtain ⟨rfl, rfl⟩ := List.cons.inj (h.symm.trans ht)
    rw [hq, hplain]

/-- The same for pieces in front of a last separator, and the piece behind it. -/
theorem components_of_pieces {p : Path} {s n : Text} {ss : List Text}
    (h : Text.splitAt '/' p.text = s :: (ss ++ [n])) :
    p.components =
      (startOf s).components ++ ((s :: ss).filterMap component? ++ (component? n).toList) := by
  have hp : p.text ≠ [] := by
    intro hp
    rw [hp] at h
    cases ss <;> cases h
  have hlast : [n].filterMap component? = (component? n).toList := by
    cases hn : component? n <;> simp [hn]
  rw [components_of_text hp h, ← List.cons_append, List.filterMap_append, hlast]

/-- Only the empty path has no component. -/
theorem components_eq_nil {p : Path} : p.components = [] ↔ p.text = [] := by
  obtain ⟨t⟩ := p
  refine ⟨fun h => ?_, fun h => ?_⟩
  · by_contra hne
    obtain ⟨s, ss, hsplit⟩ := Text.splitAt_eq_cons '/' t
    rw [components_of_text (p := ⟨t⟩) hne hsplit, List.append_eq_nil_iff] at h
    obtain ⟨hstart, hpieces⟩ := h
    have hvoid : isVoid s = true := by
      unfold startOf at hstart
      split at hstart
      · rfl
      · rfl
      · next hempty hdot =>
        by_contra hs
        rw [List.filterMap_eq_nil_iff] at hpieces
        have hnone := hpieces s List.mem_cons_self
        unfold component? at hnone
        rw [if_neg hs] at hnone
        split at hnone <;> cases hnone
    unfold isVoid at hvoid
    simp only [Bool.or_eq_true, decide_eq_true_eq] at hvoid
    rcases hvoid with rfl | rfl <;> cases hstart
  · obtain rfl : t = [] := h
    rfl

/-- What is written in a path besides separators and dots is written in its names. -/
theorem mem_text_iff {p : Path} {c : Char} (hslash : c ≠ '/') (hdot : c ≠ '.') :
    c ∈ p.text ↔ ∃ n, Component.name n ∈ p.components ∧ c ∈ n := by
  constructor
  · intro hc
    have hp : p.text ≠ [] := List.ne_nil_of_mem hc
    obtain ⟨s, hs, hcs⟩ : ∃ s ∈ Text.splitAt '/' p.text, c ∈ s := by
      have htext : Text.joinWith ['/'] (Text.splitAt '/' p.text) = p.text :=
        List.intercalate_splitOn '/'
      rw [← htext] at hc
      exact (Text.mem_joinWith hc).resolve_left (by simpa using hslash)
    have hname : component? s = some (.name s) := by
      have hvoid : isVoid s = false := by
        unfold isVoid
        rw [Bool.or_eq_false_iff, decide_eq_false_iff_not, decide_eq_false_iff_not]
        constructor
        · rintro rfl
          cases hcs
        · rintro rfl
          exact hdot (List.mem_singleton.mp hcs)
      have hup : s ≠ ['.', '.'] := by
        rintro rfl
        simp [hdot] at hcs
      unfold component?
      rw [hvoid, if_neg Bool.false_ne_true, if_neg hup]
    obtain ⟨t, ts, hsplit⟩ := Text.splitAt_eq_cons '/' p.text
    rw [components_of_text hp hsplit, ← hsplit]
    exact ⟨s, List.mem_append_right _ (List.mem_filterMap.mpr ⟨s, hs, hname⟩), hcs⟩
  · rintro ⟨n, hn, hc⟩
    obtain ⟨hpiece, -, -⟩ := mem_segments_of_name hn
    exact Text.mem_of_mem_splitAt (mem_splitAt_of_mem_segments hpiece) hc

/-! ## Joining -/

/-- A relative path is joined to a directory behind one separator, which the directory may already
end with. -/
theorem exists_join_eq {d q : Path} (hd : d.text ≠ []) (hq : q.isAbsolute = false) :
    ∃ u, (d.join q).text = u ++ '/' :: q.text ∧ (d.text = u ∨ d.text = u ++ ['/']) := by
  have hrelative : ¬ q.isAbsolute = true := by simp [hq]
  have hempty : ¬ d.text.isEmpty = true := by simpa using hd
  unfold join
  rw [if_neg hrelative]
  by_cases hslash : d.text.getLast? = some '/'
  · obtain ⟨u, hu⟩ := List.getLast?_eq_some_iff.mp hslash
    refine ⟨u, ?_, .inr hu⟩
    rw [if_pos (.inr hslash), hu]
    simp
  · refine ⟨d.text, ?_, .inl rfl⟩
    rw [if_neg (by simp [hempty, hslash])]

/-- The pieces of a joined path are the directory's and the relative path's; a void piece at the
directory's end is not among them. -/
theorem splitAt_join {d q : Path} (hd : d.text ≠ []) (hq : q.isAbsolute = false) :
    ∃ s ss, Text.splitAt '/' (d.join q).text = s :: (ss ++ Text.splitAt '/' q.text) ∧
      (Text.splitAt '/' d.text = s :: ss ∨ Text.splitAt '/' d.text = s :: (ss ++ [[]])) := by
  obtain ⟨u, hjoin, hu⟩ := exists_join_eq hd hq
  obtain ⟨s, ss, hsplit⟩ := Text.splitAt_eq_cons '/' u
  have hbehind (t : Text) : Text.splitAt '/' (u ++ '/' :: t) = s :: (ss ++ Text.splitAt '/' t) :=
    (List.splitOn_append_cons_self u t).trans (congrArg (· ++ Text.splitAt '/' t) hsplit)
  refine ⟨s, ss, ?_, ?_⟩
  · rw [hjoin]
    exact hbehind q.text
  · rcases hu with hu | hu
    · rw [hu]
      exact .inl hsplit
    · rw [hu]
      exact .inr (hbehind [])

/-- A relative path that is joined to a directory adds what its pieces name. -/
theorem components_join {d q : Path} (hd : d.text ≠ []) (hq : q.isAbsolute = false) :
    (d.join q).components = d.components ++ (Text.splitAt '/' q.text).filterMap component? := by
  obtain ⟨s, ss, hjoin, hpieces⟩ := splitAt_join hd hq
  have hcomponents : d.components = (startOf s).components ++ (s :: ss).filterMap component? := by
    rcases hpieces with hpieces | hpieces
    · exact components_of_text hd hpieces
    · have hvoid : (component? []).toList = [] := rfl
      rw [components_of_pieces hpieces, hvoid, List.append_nil]
  have hne : (d.join q).text ≠ [] := by
    intro he
    rw [he] at hjoin
    obtain ⟨-, hnone⟩ := List.cons.inj hjoin
    exact List.splitOn_ne_nil '/' q.text (List.append_eq_nil_iff.mp hnone.symm).2
  rw [components_of_text hne hjoin, hcomponents, ← List.cons_append, List.filterMap_append,
    List.append_assoc]

theorem join_of_isAbsolute (d : Path) {q : Path} (hq : q.isAbsolute = true) : d.join q = q :=
  if_pos hq

theorem join_of_empty {d q : Path} (hd : d.text = []) : d.join q = q := by
  unfold join
  rw [hd]
  simp

/-- A name joined to a directory is one component more. -/
theorem components_join_name (d : Path) {n : Text} (hn : IsName n) :
    (d.join ⟨n⟩).components = d.components ++ [.name n] := by
  by_cases hd : d.text = []
  · rw [join_of_empty hd, components_eq_nil.mpr hd, components_name hn]
    rfl
  · rw [components_join hd hn.isAbsolute_eq, hn.splitAt_eq,
      List.filterMap_cons, hn.component?_eq, List.filterMap_nil]

/-! ## The directory of a path -/

/-- Parts are read back from the path they spell, void pieces apart. -/
theorem components_path {q : Parts} (hslash : ∀ s ∈ q.segments, '/' ∉ s)
    (hplain : q.start = .plain → ∀ s ∈ q.segments.head?, startOf s = .plain) :
    q.path.components = q.start.components ++ q.segments.filterMap component? := by
  obtain ⟨start, segments⟩ := q
  cases segments with
  | nil => cases start <;> rfl
  | cons s ss =>
    have hsplit : Text.splitAt '/' (Text.joinWith ['/'] (s :: ss)) = s :: ss :=
      List.splitOn_intercalate '/' hslash (List.cons_ne_nil s ss)
    cases start with
    | root =>
      refine (components_absolute _).trans ?_
      rw [hsplit]
      rfl
    | here =>
      have hhere : Text.splitAt '/' ('.' :: '/' :: Text.joinWith ['/'] (s :: ss)) =
          ['.'] :: s :: ss := by
        rw [Text.splitAt_cons (by decide) (Text.splitAt_sep _), hsplit]
      exact components_of_text (p := ⟨'.' :: '/' :: _⟩) (List.cons_ne_nil _ _) hhere
    | plain =>
      have hs : startOf s = .plain := hplain rfl s rfl
      have hne : Text.joinWith ['/'] (s :: ss) ≠ [] := by
        intro he
        rw [he] at hsplit
        obtain ⟨rfl, -⟩ := List.cons.inj hsplit
        cases hs
      refine (components_of_text (p := ⟨Text.joinWith ['/'] (s :: ss)⟩) hne hsplit).trans ?_
      rw [hs]

theorem fileName?_eq_some {p : Path} {n : Text} :
    p.fileName? = some n ↔ p.components.getLast? = some (.name n) := by
  unfold fileName?
  split
  · next m h => simp [h]
  · next hother =>
    constructor
    · intro h
      cases h
    · intro h
      exact absurd h (hother n)

/-- The parent's parts: if the pieces end with this one, void ones apart, it is left out. -/
theorem parent?_of_trim {p : Path} {init : List Text} {s : Text}
    (h : Text.dropEndWhile isVoid p.parts.segments = init ++ [s]) :
    p.parent? = some (Parts.path ⟨p.parts.start, Text.dropEndWhile isVoid init⟩) := by
  unfold parent? Parts.trim
  rw [h]
  dsimp only
  rw [List.reverse_append, List.reverse_singleton, List.singleton_append]
  dsimp only
  rw [List.reverse_reverse]

theorem directory_of_trim {p : Path} {init : List Text} {s : Text}
    (h : Text.dropEndWhile isVoid p.parts.segments = init ++ [s]) :
    p.directory = Parts.path ⟨p.parts.start, Text.dropEndWhile isVoid init⟩ := by
  unfold directory
  rw [parent?_of_trim h]
  rfl

/-- The first piece of a plain path that names anything does not start it otherwise. -/
theorem startOf_of_plain {p : Path} (hp : p.parts.start = .plain)
    (hne : Text.dropEndWhile isVoid p.parts.segments ≠ []) {ts : List Text}
    (h : ts <+: p.parts.segments) : ∀ t ∈ ts.head?, startOf t = .plain := by
  intro t ht
  obtain ⟨rest, hrest⟩ := h
  obtain ⟨ts, rfl⟩ : ∃ us, ts = t :: us := List.head?_eq_some_iff.mp ht
  rcases parts_cases p with ⟨_, _, -, hq⟩ | ⟨_, -, hq⟩ | ⟨-, hq⟩ | ⟨s, ss, -, hq, hplain⟩
  · rw [hq] at hp
    cases hp
  · rw [hq] at hp
    cases hp
  · rw [hq] at hne
    exact absurd rfl hne
  · rw [hq] at hrest
    obtain ⟨rfl, -⟩ := List.cons.inj hrest
    exact hplain

/-- The directory of a path is the path without its last component. -/
theorem components_directory_eq (p : Path) : p.directory.components = p.components.dropLast := by
  have htrim : p.components = p.parts.start.components ++
      (Text.dropEndWhile isVoid p.parts.segments).filterMap component? := by
    rw [filterMap_dropEndWhile]
    rfl
  rcases dropEndWhile_cases p.parts.segments with hnil | ⟨init, s, hinit, hs, -⟩
  · -- No piece is left: the path is its start, and its directory is empty.
    have hempty : p.directory = ⟨[]⟩ := by
      unfold directory parent? Parts.trim
      rw [hnil]
      cases p.parts.start <;> rfl
    rw [htrim, hnil, hempty]
    cases p.parts.start <;> rfl
  have hfront : Text.dropEndWhile isVoid init <+: p.parts.segments := by
    have hall : Text.dropEndWhile isVoid p.parts.segments <+: p.parts.segments :=
      List.rdropWhile_prefix isVoid p.parts.segments
    rw [hinit] at hall
    exact (List.rdropWhile_prefix isVoid init).trans ((List.prefix_append init [s]).trans hall)
  have hdirectory : p.directory.components =
      p.parts.start.components ++ init.filterMap component? := by
    rw [directory_of_trim hinit, components_path, filterMap_dropEndWhile]
    · exact fun t ht => notMem_of_mem_segments (hfront.subset ht)
    · exact fun hplain => startOf_of_plain hplain (by simp [hinit]) hfront
  obtain ⟨c, hc⟩ : ∃ c, component? s = some c := by
    unfold component?
    rw [hs, if_neg Bool.false_ne_true]
    split <;> exact ⟨_, rfl⟩
  rw [htrim, hinit, List.filterMap_append, List.filterMap_cons, hc, List.filterMap_nil,
    ← List.append_assoc, ← hdirectory, List.dropLast_concat]

/-- A path that ends with a name is its directory and that name. -/
theorem components_directory {p : Path} {n : Text} (h : p.fileName? = some n) :
    p.components = p.directory.components ++ [.name n] := by
  rw [fileName?_eq_some] at h
  rw [components_directory_eq, List.dropLast_append_getLast? _ h]

theorem isName_of_fileName? {p : Path} {n : Text} (h : p.fileName? = some n) : IsName n := by
  have hmem : Component.name n ∈ p.components := List.mem_of_getLast? (fileName?_eq_some.mp h)
  obtain ⟨hpiece, hvoid, hup⟩ := mem_segments_of_name hmem
  exact isName_of_not_isVoid (by simp [hvoid]) hup (notMem_of_mem_segments hpiece)

/-- The directory of an absolute path that names a file is absolute. -/
theorem isAbsolute_directory {p : Path} {n : Text} (hp : p.isAbsolute = true)
    (hn : p.fileName? = some n) : p.directory.isAbsolute = true := by
  obtain ⟨t, rfl⟩ := isAbsolute_iff.mp hp
  rcases dropEndWhile_cases (parts ⟨'/' :: t⟩).segments with hnil | ⟨init, s, hinit, -, -⟩
  · -- Without a piece that counts there is no name.
    rw [fileName?_eq_some] at hn
    unfold components at hn
    rw [← filterMap_dropEndWhile, hnil, parts_absolute] at hn
    cases hn
  · rw [directory_of_trim hinit, parts_absolute]
    rfl

/-! ## Paths that are the same -/

theorem same_iff {p q : Path} : p.same q = true ↔ p.components = q.components := by
  simp [same]

theorem same_refl (p : Path) : p.same p = true := same_iff.mpr rfl

theorem same_symm {p q : Path} (h : p.same q = true) : q.same p = true :=
  same_iff.mpr (same_iff.mp h).symm

theorem same_trans {p q r : Path} (h : p.same q = true) (h' : q.same r = true) :
    p.same r = true :=
  same_iff.mpr ((same_iff.mp h).trans (same_iff.mp h'))

theorem isIn_iff {p : Path} {ps : List Path} :
    p.isIn ps = true ↔ ∃ q ∈ ps, q.components = p.components := by
  unfold isIn
  rw [List.any_eq_true]
  refine exists_congr fun q => and_congr_right fun _ => ?_
  rw [same_iff]
  exact eq_comm

/-- The name a path ends with is a matter of its components. -/
theorem fileName?_congr {p q : Path} (h : p.same q = true) : p.fileName? = q.fileName? := by
  unfold fileName?
  rw [same_iff.mp h]

theorem extension?_congr {p q : Path} (h : p.same q = true) : p.extension? = q.extension? := by
  unfold extension?
  rw [fileName?_congr h]

/-- A path is the name it ends with, joined to its directory. -/
theorem same_join_fileName {p : Path} {n : Text} (h : p.fileName? = some n) :
    (p.directory.join ⟨n⟩).same p = true := by
  have hn : IsName n := isName_of_fileName? h
  exact same_iff.mpr ((components_join_name p.directory hn).trans (components_directory h).symm)

/-- The same paths lie in the same directory. -/
theorem same_directory {p q : Path} (h : p.same q = true) :
    p.directory.same q.directory = true := by
  rw [same_iff, components_directory_eq, components_directory_eq, same_iff.mp h]

/-- A path joined to the same directories leads to the same place. -/
theorem same_join {d e : Path} (h : d.same e = true) (q : Path) :
    (d.join q).same (e.join q) = true := by
  by_cases hq : q.isAbsolute = true
  · rw [join_of_isAbsolute d hq, join_of_isAbsolute e hq]
    exact same_refl q
  have hrelative : q.isAbsolute = false := by simpa using hq
  by_cases hd : d.text = []
  · have he : e.text = [] := by
      rw [← components_eq_nil, ← same_iff.mp h]
      exact components_eq_nil.mpr hd
    rw [join_of_empty hd, join_of_empty he]
    exact same_refl q
  · have he : e.text ≠ [] := by
      rw [Ne, ← components_eq_nil, ← same_iff.mp h, components_eq_nil]
      exact hd
    rw [same_iff, components_join hd hrelative, components_join he hrelative, same_iff.mp h]

/-- A path made of a directory and a name ends with the name, and lies in the directory. -/
theorem of_same_join {p d : Path} {n : Text} (hn : IsName n) (h : p.same (d.join ⟨n⟩) = true) :
    p.fileName? = some n ∧ p.directory.same d = true := by
  have hp := (same_iff.mp h).trans (components_join_name d hn)
  have hname : p.fileName? = some n := fileName?_eq_some.mpr (by rw [hp, List.getLast?_concat])
  refine ⟨hname, same_iff.mpr ?_⟩
  rw [components_directory hname] at hp
  exact List.append_cancel_right hp

end StyleVars.Path
