import StyleVars.Path.Normalize
import StyleVars.Proofs.Path.Directory

/-
  Where a path leads in a tree without links: `.` and empty segments stay, `..` goes to the parent
  and stays at the root, a name descends. `follow` is one step of that walk. Whatever its spelling,
  all that a path says is its route: names from the root, or a number of levels up from the working
  directory and names from there. The walk follows the route (`endpoint_eq`), and the stack of
  components that `push` keeps is the route so far, last component first; so the normal form spells
  the route (`normalize_eq`), and that of an absolute path the names from the root to the end of the
  walk (`normalize_absolute`).
-/

namespace StyleVars.Path

/-! ## Walks -/

/-- Where one segment leads from a location, given as the names from the root. -/
def follow (location : List Text) (segment : Text) : List Text :=
  if isVoid segment then location
  else if segment = ['.', '.'] then location.dropLast
  else location ++ [segment]

theorem follow_name {n : Text} (hn : IsName n) (location : List Text) :
    follow location n = location ++ [n] := by
  unfold follow
  rw [hn.isVoid_eq, if_neg Bool.false_ne_true, if_neg hn.2.2.1]

/-- The names that the segments of an absolute path lead to. -/
def destination (segments : List Text) : List Text := segments.foldl follow []

/-- A location as the stack of its components. -/
def stackOf (location : List Text) : List Component :=
  (location.map Component.name).reverse ++ [.root]

theorem stackOf_concat (location : List Text) (n : Text) :
    stackOf (location ++ [n]) = .name n :: stackOf location := by
  simp [stackOf]

theorem push_up (location : List Text) :
    push (stackOf location) .up = stackOf location.dropLast := by
  rcases List.eq_nil_or_concat location with rfl | ⟨init, n, rfl⟩
  · rfl
  · rw [List.concat_eq_append, stackOf_concat, List.dropLast_concat]
    rfl

/-- Every step keeps the location a list of names. -/
theorem isName_of_mem_follow {location : List Text} {segment : Text} (hs : '/' ∉ segment)
    (hl : ∀ n ∈ location, IsName n) : ∀ n ∈ follow location segment, IsName n := by
  intro n hn
  unfold follow at hn
  split at hn
  · exact hl n hn
  next hvoid =>
    split at hn
    · exact hl n (List.dropLast_subset location hn)
    next hup =>
      rcases List.mem_append.mp hn with hn | hn
      · exact hl n hn
      · obtain rfl := List.mem_singleton.mp hn
        exact isName_of_not_isVoid hvoid hup hs

theorem isName_of_mem_foldl_follow {segments location : List Text}
    (hs : ∀ s ∈ segments, '/' ∉ s) (hl : ∀ n ∈ location, IsName n) :
    ∀ n ∈ segments.foldl follow location, IsName n := by
  induction segments generalizing location with
  | nil => exact hl
  | cons segment segments ih =>
    have hfirst := hs segment List.mem_cons_self
    have hrest : ∀ s ∈ segments, '/' ∉ s := fun s h => hs s (List.mem_cons_of_mem segment h)
    exact ih hrest (isName_of_mem_follow hfirst hl)

/-- Where a path leads from a working directory in a tree without links. -/
def endpoint (w : List Text) (p : Path) : List Text :=
  (Text.splitAt '/' p.text).foldl follow (if p.isAbsolute then [] else w)

/-- The place some levels above another one; above the root is the root. -/
def above (w : List Text) (levels : Nat) : List Text := w.take (w.length - levels)

theorem above_zero (w : List Text) : above w 0 = w := List.take_length

theorem dropLast_above (w : List Text) (k : Nat) : (above w k).dropLast = above w (k + 1) := by
  unfold above
  rw [List.dropLast_eq_take, List.length_take, List.take_take]
  congr 1
  omega

/-! ## Routes -/

/-- All that a path says about where it leads. -/
inductive Route where
  | fromRoot (names : List Text)
  | upwards (levels : Nat) (names : List Text)

namespace Route

/-- The names a route goes down. -/
def names : Route → List Text
  | fromRoot ns => ns
  | upwards _ ns => ns

/-- Does the route start at the root? -/
def isRooted : Route → Bool
  | fromRoot _ => true
  | upwards _ _ => false

/-- Where the route leads from a working directory. -/
def leadsTo (w : List Text) : Route → List Text
  | fromRoot ns => ns
  | upwards k ns => above w k ++ ns

/-- The components of the route. -/
def components : Route → List Component
  | fromRoot ns => .root :: ns.map .name
  | upwards k ns => List.replicate k .up ++ ns.map .name

/-- The plain spelling of the route. -/
def path (r : Route) : Path := ofComponents r.components

/-- The route with more names to go down. -/
def descend : Route → List Text → Route
  | fromRoot ns, ms => fromRoot (ns ++ ms)
  | upwards k ns, ms => upwards k (ns ++ ms)

/-- The route to the directory above. -/
def ascend : Route → Route
  | fromRoot ns => fromRoot ns.dropLast
  | upwards k [] => upwards (k + 1) []
  | upwards k (n :: ns) => upwards k (n :: ns).dropLast

/-- The route with one piece more. -/
def step (r : Route) (segment : Text) : Route :=
  if isVoid segment then r
  else if segment = ['.', '.'] then r.ascend
  else r.descend [segment]

variable (r : Route)

theorem leadsTo_upwards (w : List Text) (k : Nat) (ns : List Text) :
    (upwards k ns).leadsTo w = above w k ++ ns := rfl

theorem ascend_concat (k : Nat) (ns : List Text) (n : Text) :
    ascend (upwards k (ns ++ [n])) = upwards k ns := by
  cases ns with
  | nil => rfl
  | cons m ns => rw [List.cons_append, ascend, ← List.cons_append, List.dropLast_concat]

/-- The route is followed piece by piece. -/
theorem leadsTo_step (w : List Text) (segment : Text) :
    (r.step segment).leadsTo w = follow (r.leadsTo w) segment := by
  unfold step follow
  by_cases hvoid : isVoid segment = true
  · rw [if_pos hvoid, if_pos hvoid]
  rw [if_neg hvoid, if_neg hvoid]
  by_cases hup : segment = ['.', '.']
  · rw [if_pos hup, if_pos hup]
    cases r with
    | fromRoot ns => rfl
    | upwards k ns =>
      rcases List.eq_nil_or_concat ns with rfl | ⟨init, n, rfl⟩
      · rw [leadsTo_upwards, List.append_nil, dropLast_above]
        exact List.append_nil _
      · rw [List.concat_eq_append, ascend_concat, leadsTo_upwards, leadsTo_upwards,
          ← List.append_assoc, List.dropLast_concat]
  · rw [if_neg hup, if_neg hup]
    cases r with
    | fromRoot ns => rfl
    | upwards k ns => exact (List.append_assoc _ _ _).symm

theorem foldl_leadsTo (w : List Text) (segments : List Text) :
    (segments.foldl step r).leadsTo w = segments.foldl follow (r.leadsTo w) := by
  induction segments generalizing r with
  | nil => rfl
  | cons segment segments ih => rw [List.foldl_cons, List.foldl_cons, ih, leadsTo_step]

theorem push_name (stack : List Component) (n : Text) : push stack (.name n) = .name n :: stack := by
  cases stack with
  | nil => rfl
  | cons c stack => cases c <;> rfl

theorem push_ascend : push r.components.reverse .up = r.ascend.components.reverse := by
  cases r with
  | fromRoot ns =>
    have hstack (ms : List Text) : (fromRoot ms).components.reverse = stackOf ms := by
      simp [components, stackOf]
    unfold ascend
    rw [hstack, hstack, push_up]
  | upwards k ns =>
    rcases List.eq_nil_or_concat ns with rfl | ⟨init, n, rfl⟩
    · have hlevels (k : Nat) : (upwards k []).components.reverse = List.replicate k .up := by
        simp [components]
      rw [ascend, hlevels, hlevels]
      cases k <;> rfl
    · have hstack : (upwards k (init ++ [n])).components.reverse =
          .name n :: (upwards k init).components.reverse := by
        simp [components]
      rw [List.concat_eq_append, ascend_concat, hstack]
      rfl

theorem push_descend (n : Text) :
    push r.components.reverse (.name n) = (r.descend [n]).components.reverse := by
  rw [push_name]
  cases r <;> simp [components, descend]

/-- A component moves the stack as its piece moves the route. -/
theorem foldl_push_step (segment : Text) :
    (component? segment).toList.foldl push r.components.reverse =
      (r.step segment).components.reverse := by
  unfold component? step
  by_cases hvoid : isVoid segment = true
  · rw [if_pos hvoid, if_pos hvoid]
    rfl
  rw [if_neg hvoid, if_neg hvoid]
  by_cases hup : segment = ['.', '.']
  · rw [if_pos hup, if_pos hup]
    exact r.push_ascend
  · rw [if_neg hup, if_neg hup]
    exact r.push_descend segment

theorem foldl_push (segments : List Text) :
    (segments.filterMap component?).foldl push r.components.reverse =
      (segments.foldl step r).components.reverse := by
  induction segments generalizing r with
  | nil => rfl
  | cons segment segments ih =>
    have hstep := r.foldl_push_step segment
    rw [List.foldl_cons, ← ih, ← hstep, List.filterMap_cons]
    cases component? segment <;> rfl

/-! ### The spelling of a route -/

theorem map_segment (ns : List Text) : (ns.map Component.name).map Component.segment = ns := by
  rw [List.map_map]
  exact List.map_id ns

theorem path_fromRoot (ns : List Text) :
    (fromRoot ns).path = ⟨'/' :: Text.joinWith ['/'] ns⟩ := by
  unfold path components ofComponents
  dsimp only
  rw [map_segment]

theorem path_upwards {k : Nat} {ns : List Text} (hne : List.replicate k ['.', '.'] ++ ns ≠ []) :
    (upwards k ns).path = ⟨Text.joinWith ['/'] (List.replicate k ['.', '.'] ++ ns)⟩ := by
  have hsegments : (List.replicate k Component.up ++ ns.map Component.name).map Component.segment =
      List.replicate k ['.', '.'] ++ ns := by
    rw [List.map_append, List.map_replicate, map_segment]
    rfl
  have hspelled : (upwards k ns).path =
      ⟨Text.joinWith ['/'] ((List.replicate k Component.up ++ ns.map Component.name).map
        Component.segment)⟩ := by
    cases k with
    | zero =>
      cases ns with
      | nil => exact absurd rfl hne
      | cons n ns => rfl
    | succ k => rfl
  rw [hspelled, hsegments]

end Route

/-! ## The route of a path -/

/-- The route that a path spells. -/
def route (p : Path) : Route :=
  (Text.splitAt '/' p.text).foldl Route.step (if p.isAbsolute then .fromRoot [] else .upwards 0 [])

theorem route_absolute (t : Text) :
    route ⟨'/' :: t⟩ = (Text.splitAt '/' t).foldl Route.step (.fromRoot []) := by
  have hpieces : Text.splitAt '/' ('/' :: t) = [] :: Text.splitAt '/' t := Text.splitAt_sep t
  unfold route
  rw [hpieces]
  rfl

theorem route_relative {p : Path} (h : p.isAbsolute = false) :
    route p = (Text.splitAt '/' p.text).foldl Route.step (.upwards 0 []) := by
  unfold route
  rw [h, if_neg Bool.false_ne_true]

/-- A path leads where its route does. -/
theorem endpoint_eq (w : List Text) (p : Path) : endpoint w p = p.route.leadsTo w := by
  unfold endpoint route
  rw [Route.foldl_leadsTo]
  congr 1
  split
  · rfl
  · rw [Route.leadsTo_upwards, above_zero, List.append_nil]

/-- The names of a route are where it leads from the root. -/
theorem leadsTo_root (r : Route) : r.leadsTo [] = r.names := by
  cases r with
  | fromRoot ns => rfl
  | upwards k ns =>
    rw [Route.leadsTo_upwards, above, List.take_nil, List.nil_append]
    rfl

theorem isName_of_mem_route (p : Path) : ∀ n ∈ p.route.names, IsName n := by
  rw [← leadsTo_root, ← endpoint_eq]
  unfold endpoint
  rw [ite_self]
  exact isName_of_mem_foldl_follow (fun _ => Text.notMem_of_mem_splitAt)
    fun n hn => absurd hn List.not_mem_nil

theorem splitAt_relative {p : Path} (h : p.isAbsolute = false) (hne : p.text ≠ []) :
    ∃ s ss, Text.splitAt '/' p.text = s :: ss ∧ s ≠ [] := by
  obtain ⟨t⟩ := p
  obtain ⟨c, t, rfl⟩ := List.exists_cons_of_ne_nil hne
  have hc : c ≠ '/' := by
    rintro rfl
    cases h
  obtain ⟨s, ss, hsplit⟩ := Text.splitAt_eq_cons '/' t
  exact ⟨c :: s, ss, Text.splitAt_cons hc hsplit, List.cons_ne_nil c s⟩

/-- The components that are left over are those of the route. -/
theorem normalComponents_eq (p : Path) : p.normalComponents = p.route.components := by
  suffices h : p.components.foldl push [] = p.route.components.reverse by
    unfold normalComponents
    rw [h, List.reverse_reverse]
  by_cases habsolute : p.isAbsolute = true
  · obtain ⟨t, rfl⟩ := isAbsolute_iff.mp habsolute
    rw [route_absolute, components_absolute, ← Route.foldl_push]
    rfl
  have hrelative : p.isAbsolute = false := by simpa using habsolute
  rw [route_relative hrelative, ← Route.foldl_push]
  by_cases hempty : p.text = []
  · rw [components_eq_nil.mpr hempty, hempty]
    rfl
  · obtain ⟨s, ss, hsplit, hs⟩ := splitAt_relative hrelative hempty
    have hstart : (startOf s).components.foldl push [] = [] := by
      unfold startOf
      split
      · exact absurd rfl hs
      · rfl
      · rfl
    rw [components_of_text hempty hsplit, hsplit, List.foldl_append, hstart]
    rfl

/-- The normal form spells the route. -/
theorem normalize_eq (p : Path) : p.normalize = p.route.path := by
  unfold normalize Route.path
  rw [normalComponents_eq]

/-- The route from the root is where the walk leads. -/
theorem foldl_step_fromRoot (segments location : List Text) :
    segments.foldl Route.step (.fromRoot location) = .fromRoot (segments.foldl follow location) := by
  induction segments generalizing location with
  | nil => rfl
  | cons segment segments ih =>
    have hstep : (Route.fromRoot location).step segment = .fromRoot (follow location segment) := by
      unfold Route.step follow
      split
      · rfl
      · split <;> rfl
    rw [List.foldl_cons, List.foldl_cons, hstep, ih]

/-- The normal form of an absolute path spells the names it leads to. -/
theorem normalize_absolute (t : Text) :
    normalize ⟨'/' :: t⟩ = ⟨'/' :: Text.joinWith ['/'] (destination (Text.splitAt '/' t))⟩ := by
  rw [normalize_eq, route_absolute, foldl_step_fromRoot, Route.path_fromRoot]
  rfl

/-- Paths with the same components have the same normal form. -/
theorem normalize_congr {p q : Path} (h : p.components = q.components) :
    p.normalize = q.normalize := by
  unfold normalize normalComponents
  rw [h]

end StyleVars.Path
