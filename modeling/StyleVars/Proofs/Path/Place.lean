import StyleVars.Proofs.Path.Parent

/-
  Paths from the root. An absolute path is its location and nothing else, so the path from the root
  of what is used in a working directory spells the location it leads to (`absolute_eq`), and two
  such paths are equal exactly if they lead to the same place (`absolute_eq_iff`). Its parent is
  spelled by the location without its last name; the root has none (`parent?_fromRoot`). A path that
  ends with a name leads one name further than its directory (`locationIn_of_fileName`).
-/

namespace StyleVars.Path

/-! ## Locations -/

variable {p q w : Path}

/-- The route of an absolute path is where it leads, from anywhere. -/
theorem route_of_isAbsolute (h : p.isAbsolute = true) (location : List Text) :
    p.route = .fromRoot (endpoint location p) := by
  have hrooted := isRooted_route p
  rw [h] at hrooted
  rw [endpoint_eq]
  cases hroute : p.route with
  | fromRoot ns => rfl
  | upwards k ns =>
    rw [hroute] at hrooted
    cases hrooted

theorem absolute_eq_normalize (p w : Path) : p.absolute w = (w.join p).normalize := by
  unfold absolute
  split
  next h => rw [join_of_isAbsolute w h]
  next => rfl

/-- The location of a path that is used in a working directory. -/
def locationIn (w p : Path) : List Text := endpoint (endpoint [] w) p

/-- Paths with the same components lead to the same place. -/
theorem locationIn_congr (h : p.same q = true) (w : Path) : locationIn w p = locationIn w q := by
  have hroute : p.route = q.route := by
    rw [← route_normalize p, ← route_normalize q, normalize_congr (same_iff.mp h)]
  unfold locationIn
  rw [endpoint_eq, endpoint_eq _ q, hroute]

/-- A path that ends with a name leads to that name in the place its directory leads to. -/
theorem locationIn_of_fileName {n : Text} (h : p.fileName? = some n) (w : Path) :
    locationIn w p = locationIn w p.directory ++ [n] := by
  have hn : IsName n := isName_of_fileName? h
  rw [← locationIn_congr (same_join_fileName h)]
  exact endpoint_join_name _ p.directory hn

theorem route_absolute_of (hw : w.isAbsolute = true) (p : Path) :
    (p.absolute w).route = .fromRoot (locationIn w p) := by
  have hjoin : (w.join p).isAbsolute = true := by
    by_cases hp : p.isAbsolute = true
    · rwa [join_of_isAbsolute w hp]
    · have hne : w.text ≠ [] := by
        intro hempty
        simp [isAbsolute, hempty] at hw
      rw [isAbsolute_join hne (by simpa using hp), hw]
  rw [absolute_eq_normalize, route_normalize, route_of_isAbsolute hjoin [], endpoint_join]
  rfl

/-- The path from the root spells the location. -/
theorem absolute_eq (hw : w.isAbsolute = true) (p : Path) :
    p.absolute w = (Route.fromRoot (locationIn w p)).path := by
  rw [← route_absolute_of hw p, absolute_eq_normalize, route_normalize, normalize_eq]

/-- Equal paths from the root are equal locations. -/
theorem absolute_eq_iff (hw : w.isAbsolute = true) :
    p.absolute w = q.absolute w ↔ locationIn w p = locationIn w q := by
  constructor
  · intro h
    have hroute := congrArg route h
    rw [route_absolute_of hw, route_absolute_of hw] at hroute
    exact Route.fromRoot.inj hroute
  · intro h
    rw [absolute_eq hw, absolute_eq hw, h]

theorem locationIn_absolute (hw : w.isAbsolute = true) (p : Path) :
    locationIn w (p.absolute w) = locationIn w p := by
  unfold locationIn
  rw [endpoint_eq, route_absolute_of hw p]
  rfl

theorem isName_of_mem_locationIn (hw : w.isAbsolute = true) (p : Path) :
    ∀ n ∈ locationIn w p, IsName n := by
  have hnames := isName_of_mem_route (p.absolute w)
  rwa [route_absolute_of hw] at hnames

/-! ## Parents -/

theorem parent?_fromRoot_concat {ns : List Text} {n : Text} (hns : ∀ m ∈ ns, IsName m)
    (hn : IsName n) :
    (Route.fromRoot (ns ++ [n])).path.parent? = some (Route.fromRoot ns).path := by
  have hread : (Route.fromRoot ns).path.route = .fromRoot ns := route_path hns
  have hroute : ((Route.fromRoot ns).path.join ⟨n⟩).route = .fromRoot (ns ++ [n]) := by
    rw [route_join_name _ hn, hread]
    rfl
  rw [← hroute, ← normalize_eq, parent?_normalize_join _ hn, folder, hread, Route.path_fromRoot]
  rfl

/-- The parent of a path from the root spells the location without its last name. -/
theorem parent?_fromRoot {names : List Text} (h : ∀ n ∈ names, IsName n) :
    (Route.fromRoot names).path.parent? =
      if names = [] then none else some (Route.fromRoot names.dropLast).path := by
  rcases List.eq_nil_or_concat names with rfl | ⟨init, n, rfl⟩
  · rfl
  · rw [List.concat_eq_append] at h ⊢
    have hinit : ∀ m ∈ init, IsName m := fun m hm => h m (List.mem_append_left _ hm)
    have hn : IsName n := h n (List.mem_append_right _ List.mem_cons_self)
    rw [parent?_fromRoot_concat hinit hn, List.dropLast_concat, if_neg (by simp)]

theorem endpoint_fromRoot {names : List Text} (h : ∀ n ∈ names, IsName n) (location : List Text) :
    endpoint location (Route.fromRoot names).path = names := by
  have hread : (Route.fromRoot names).path.route = .fromRoot names := route_path h
  rw [endpoint_eq, hread]
  rfl

end StyleVars.Path
