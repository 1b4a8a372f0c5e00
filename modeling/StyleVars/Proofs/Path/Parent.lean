import StyleVars.Proofs.Path.Canonical

/-
  The parent and the name of a normal form. A path joined to a directory goes on along the
  directory's route (`route_join`), so a name joined to it is one piece more (`parts_normalize_join`):
  the normal form ends with that name (`fileName?_normalize_join`), and its parent spells the route
  of the directory (`parent?_normalize_join`), which leads where the directory does
  (`endpoint_folder`).
-/

namespace StyleVars.Path

/-! ## Joining -/

/-- A relative path that is joined to a directory starts where the directory does. -/
theorem isAbsolute_join {d q : Path} (hd : d.text ≠ []) (hq : q.isAbsolute = false) :
    (d.join q).isAbsolute = d.isAbsolute := by
  obtain ⟨u, hjoin, hu⟩ := exists_join_eq hd hq
  unfold isAbsolute
  rw [hjoin]
  rcases hu with hu | hu
  · obtain ⟨c, u, rfl⟩ := List.exists_cons_of_ne_nil (hu ▸ hd)
    rw [hu]
    rfl
  · rw [hu]
    cases u <;> rfl

/-- A relative path goes on along the route of the directory it is joined to. -/
theorem route_join (d : Path) {q : Path} (hq : q.isAbsolute = false) :
    (d.join q).route = (Text.splitAt '/' q.text).foldl Route.step d.route := by
  by_cases hd : d.text = []
  · have hroute : d.route = .upwards 0 [] := by
      unfold route isAbsolute
      rw [hd]
      rfl
    rw [join_of_empty hd, route_relative hq, hroute]
  obtain ⟨s, ss, hjoin, hpieces⟩ := splitAt_join hd hq
  have hroute : d.route = (s :: ss).foldl Route.step
      (if d.isAbsolute then .fromRoot [] else .upwards 0 []) := by
    unfold route
    rcases hpieces with hpieces | hpieces
    · rw [hpieces]
    · rw [hpieces, ← List.cons_append, List.foldl_append]
      rfl
  rw [hroute, ← List.foldl_append, List.cons_append, ← hjoin, ← isAbsolute_join hd hq]
  rfl

/-- A name that is joined to a directory is one step down. -/
theorem route_join_name (d : Path) {n : Text} (hn : IsName n) :
    (d.join ⟨n⟩).route = d.route.descend [n] := by
  rw [route_join d hn.isAbsolute_eq, hn.splitAt_eq, List.foldl_cons, List.foldl_nil,
    Route.step_name _ hn]

/-- A path that is joined to a directory is followed from where the directory leads. -/
theorem endpoint_join (w : List Text) (d q : Path) :
    endpoint w (d.join q) = endpoint (endpoint w d) q := by
  by_cases hq : q.isAbsolute = true
  · rw [join_of_isAbsolute d hq]
    unfold endpoint
    rw [if_pos hq, if_pos hq]
  · have hrelative : q.isAbsolute = false := by simpa using hq
    show endpoint w (d.join q) =
      (Text.splitAt '/' q.text).foldl follow (if q.isAbsolute then [] else endpoint w d)
    rw [if_neg hq, endpoint_eq, route_join d hrelative, Route.foldl_leadsTo, ← endpoint_eq]

theorem endpoint_join_name (w : List Text) (d : Path) {n : Text} (hn : IsName n) :
    endpoint w (d.join ⟨n⟩) = endpoint w d ++ [n] := by
  rw [endpoint_eq, route_join_name d hn, ← Route.step_name _ hn, Route.leadsTo_step, ← endpoint_eq,
    follow_name hn]

theorem normalize_normalize (p : Path) : p.normalize.normalize = p.normalize := by
  rw [normalize_eq p.normalize, route_normalize, ← normalize_eq]

/-! ## The pieces of a route -/

namespace Route

/-- The pieces of the plain spelling of a route. -/
def parts : Route → Parts
  | fromRoot ns => ⟨.root, ns⟩
  | upwards k ns => ⟨.plain, List.replicate k ['.', '.'] ++ ns⟩

variable {r : Route}

theorem parts_descend (r : Route) (n : Text) :
    (r.descend [n]).parts = ⟨r.parts.start, r.parts.segments ++ [n]⟩ := by
  cases r <;> simp [parts, descend]

theorem path_eq (h : r.parts.segments ≠ []) : r.path = r.parts.path := by
  cases r with
  | fromRoot ns => exact path_fromRoot ns
  | upwards k ns => exact path_upwards h

theorem mem_segments (h : ∀ n ∈ r.names, IsName n) :
    ∀ s ∈ r.parts.segments, isVoid s = false ∧ '/' ∉ s := by
  intro s hs
  have hname (hs : s ∈ r.names) : isVoid s = false ∧ '/' ∉ s :=
    ⟨(h s hs).isVoid_eq, (h s hs).2.2.2⟩
  cases r with
  | fromRoot ns => exact hname hs
  | upwards k ns =>
    rcases List.mem_append.mp hs with hs | hs
    · rw [List.eq_of_mem_replicate hs]
      decide
    · exact hname hs

end Route

/-- A first piece that is not void starts a plain path. -/
theorem parts_of_pieces {p : Path} {s : Text} {ss : List Text}
    (h : Text.splitAt '/' p.text = s :: ss) (hs : isVoid s = false) :
    p.parts = ⟨.plain, s :: ss⟩ := by
  unfold parts
  rw [h]
  split
  · next he =>
    obtain ⟨rfl, -⟩ := List.cons.inj he
    cases hs
  · next he =>
    obtain ⟨rfl, -⟩ := List.cons.inj he
    cases hs
  · rfl

/-- Pieces none of which is void are read back from the path they spell. -/
theorem parts_path {q : Parts} (hne : q.segments ≠ [])
    (h : ∀ s ∈ q.segments, isVoid s = false ∧ '/' ∉ s) : q.path.parts = q := by
  obtain ⟨start, segments⟩ := q
  obtain ⟨s, ss, rfl⟩ := List.exists_cons_of_ne_nil hne
  have hsplit : Text.splitAt '/' (Text.joinWith ['/'] (s :: ss)) = s :: ss :=
    List.splitOn_intercalate '/' (fun t ht => (h t ht).2) hne
  cases start with
  | root =>
    refine (parts_absolute _).trans ?_
    rw [hsplit]
  | here =>
    have hhere : Text.splitAt '/' ('.' :: '/' :: Text.joinWith ['/'] (s :: ss)) =
        ['.'] :: s :: ss := by
      rw [Text.splitAt_cons (by decide) (Text.splitAt_sep _), hsplit]
    show (Path.mk ('.' :: '/' :: Text.joinWith ['/'] (s :: ss))).parts = _
    unfold parts
    rw [hhere]
    rfl
  | plain => exact parts_of_pieces hsplit (h s List.mem_cons_self).1

/-- The route is read back from its pieces, and from none too. -/
theorem route_parts {r : Route} (h : ∀ n ∈ r.names, IsName n) : r.parts.path.route = r := by
  by_cases hne : r.parts.segments = []
  · cases r with
    | fromRoot ns =>
      obtain rfl : ns = [] := hne
      rfl
    | upwards k ns =>
      obtain ⟨hk, rfl⟩ := List.append_eq_nil_iff.mp hne
      obtain rfl : k = 0 := by simpa using hk
      rfl
  · rw [← Route.path_eq hne, route_path h]

/-! ## Names in a directory -/

/-- The plain spelling of a directory as the parent of what lies in it: the working directory is
spelled by the empty path. -/
def folder (d : Path) : Path := d.route.parts.path

theorem endpoint_folder (w : List Text) (d : Path) : endpoint w d.folder = endpoint w d := by
  unfold folder
  rw [endpoint_eq, route_parts (isName_of_mem_route d), endpoint_eq]

/-- A name in a directory is the last piece of its normal form. -/
theorem parts_normalize_join (d : Path) {n : Text} (hn : IsName n) :
    (d.join ⟨n⟩).normalize.parts = ⟨d.route.parts.start, d.route.parts.segments ++ [n]⟩ := by
  have hroute : (d.join ⟨n⟩).route = d.route.descend [n] := route_join_name d hn
  have hnames : ∀ m ∈ (d.route.descend [n]).names, IsName m := by
    rw [← hroute]
    exact isName_of_mem_route _
  have hne : (d.route.descend [n]).parts.segments ≠ [] := by
    rw [Route.parts_descend]
    simp
  rw [normalize_eq, hroute, Route.path_eq hne, parts_path hne (Route.mem_segments hnames),
    Route.parts_descend]

theorem parent?_normalize_join (d : Path) {n : Text} (hn : IsName n) :
    (d.join ⟨n⟩).normalize.parent? = some d.folder := by
  have htrim : Text.dropEndWhile isVoid d.route.parts.segments = d.route.parts.segments := by
    refine List.rdropWhile_eq_self_iff.mpr fun hne => ?_
    have hlast := List.getLast_mem hne
    simp [(Route.mem_segments (isName_of_mem_route d) _ hlast).1]
  have hname : Text.dropEndWhile isVoid (d.join ⟨n⟩).normalize.parts.segments =
      d.route.parts.segments ++ [n] := by
    rw [parts_normalize_join d hn, dropEndWhile_concat hn]
  rw [parent?_of_trim hname, parts_normalize_join d hn, htrim]
  rfl

theorem fileName?_normalize_join (d : Path) {n : Text} (hn : IsName n) :
    (d.join ⟨n⟩).normalize.fileName? = some n := by
  rw [fileName?_eq_some]
  unfold components
  rw [parts_normalize_join d hn, List.filterMap_append, ← List.append_assoc, List.filterMap_cons,
    hn.component?_eq, List.filterMap_nil, List.getLast?_concat]

end StyleVars.Path
