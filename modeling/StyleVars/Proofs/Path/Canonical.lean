import StyleVars.Proofs.Path.Normalize

/-
  The normal form of a path is canonical. The route that a path spells is read back from its normal
  form (`route_path`), and where it leads from working directories determines it
  (`Route.eq_of_leadsTo`); so paths have the same normal form exactly if they end at the same place
  from everywhere (`normalize_canonical`).
-/

namespace StyleVars.Path

/-! ## The route is read back from its spelling -/

namespace Route

variable (r : Route)

theorem step_name {n : Text} (hn : IsName n) : r.step n = r.descend [n] := by
  unfold step
  rw [if_neg (by simp [hn.isVoid_eq]), if_neg hn.2.2.1]

theorem foldl_step_names {ns : List Text} (h : ∀ n ∈ ns, IsName n) :
    ns.foldl step r = r.descend ns := by
  induction ns generalizing r with
  | nil => cases r <;> simp [descend]
  | cons n ns ih =>
    rw [List.foldl_cons, r.step_name (h n List.mem_cons_self),
      ih _ fun m hm => h m (List.mem_cons_of_mem n hm)]
    cases r <;> simp [descend]

theorem foldl_step_up (j k : Nat) :
    (List.replicate k ['.', '.']).foldl step (upwards j []) = upwards (j + k) [] := by
  induction k generalizing j with
  | zero => rfl
  | succ k ih =>
    have hup : (upwards j []).step ['.', '.'] = upwards (j + 1) [] := rfl
    rw [List.replicate_succ, List.foldl_cons, hup, ih, Nat.add_right_comm, Nat.add_assoc]

end Route

theorem isRooted_step (r : Route) (segment : Text) : (r.step segment).isRooted = r.isRooted := by
  unfold Route.step
  split
  · rfl
  · split
    · cases r with
      | fromRoot ns => rfl
      | upwards k ns => cases ns <;> rfl
    · cases r <;> rfl

theorem isRooted_route (p : Path) : p.route.isRooted = p.isAbsolute := by
  have hfold (segments : List Text) (r : Route) :
      (segments.foldl Route.step r).isRooted = r.isRooted := by
    induction segments generalizing r with
    | nil => rfl
    | cons segment segments ih => rw [List.foldl_cons, ih, isRooted_step]
  unfold route
  rw [hfold]
  cases p.isAbsolute <;> rfl

theorem isAbsolute_joinWith {s : Text} {ss : List Text} (hs : s ≠ []) (hslash : '/' ∉ s) :
    (Path.mk (Text.joinWith ['/'] (s :: ss))).isAbsolute = false := by
  obtain ⟨c, s, rfl⟩ := List.exists_cons_of_ne_nil hs
  have hc : c ≠ '/' := by
    rintro rfl
    exact hslash List.mem_cons_self
  cases ss with
  | nil => simp [isAbsolute, hc]
  | cons t ts => simp [isAbsolute, List.intercalate_cons_cons, hc]

/-- A route along names is read back from its spelling. -/
theorem route_path {r : Route} (h : ∀ n ∈ r.names, IsName n) : r.path.route = r := by
  cases r with
  | fromRoot ns =>
    have hnames : ∀ n ∈ ns, IsName n := h
    rw [Route.path_fromRoot, route_absolute]
    by_cases hns : ns = []
    · subst hns
      rfl
    · have hsplit : Text.splitAt '/' (Text.joinWith ['/'] ns) = ns :=
        List.splitOn_intercalate '/' (fun n hn => (hnames n hn).2.2.2) hns
      rw [hsplit, Route.foldl_step_names _ hnames]
      rfl
  | upwards k ns =>
    have hnames : ∀ n ∈ ns, IsName n := h
    by_cases hne : List.replicate k ['.', '.'] ++ ns = []
    · obtain ⟨hk, rfl⟩ := List.append_eq_nil_iff.mp hne
      obtain rfl : k = 0 := by simpa using hk
      rfl
    · have hpiece : ∀ s ∈ List.replicate k ['.', '.'] ++ ns, s ≠ [] ∧ '/' ∉ s := by
        intro s hs
        rcases List.mem_append.mp hs with hs | hs
        · rw [List.eq_of_mem_replicate hs]
          decide
        · exact ⟨(hnames s hs).1, (hnames s hs).2.2.2⟩
      have hrelative : (Path.mk (Text.joinWith ['/']
          (List.replicate k ['.', '.'] ++ ns))).isAbsolute = false := by
        obtain ⟨s, ss, hss⟩ := List.exists_cons_of_ne_nil hne
        rw [hss] at hpiece ⊢
        have hs := hpiece s List.mem_cons_self
        exact isAbsolute_joinWith hs.1 hs.2
      have hsplit : Text.splitAt '/' (Text.joinWith ['/'] (List.replicate k ['.', '.'] ++ ns)) =
          List.replicate k ['.', '.'] ++ ns :=
        List.splitOn_intercalate '/' (fun s hs => (hpiece s hs).2) hne
      rw [Route.path_upwards hne, route_relative hrelative, hsplit, List.foldl_append,
        Route.foldl_step_up, Nat.zero_add, Route.foldl_step_names _ hnames]
      rfl

theorem route_normalize (p : Path) : p.normalize.route = p.route := by
  rw [normalize_eq, route_path (isName_of_mem_route p)]

/-! ## Routes told apart -/

theorem above_replicate (n : Text) (m k : Nat) :
    above (List.replicate m n) k = List.replicate (m - k) n := by
  unfold above
  rw [List.length_replicate, List.take_replicate, Nat.min_eq_left (Nat.sub_le m k)]

/-- The route says the same from every place that many levels below the root. -/
def Route.Forgets : Route → Nat → Prop
  | fromRoot _, _ => True
  | upwards k _, m => m ≤ k

/-- Two places of that depth are enough to see it. -/
theorem Route.forgets_iff (r : Route) (m : Nat) :
    r.Forgets m ↔ r.leadsTo (List.replicate m ['a']) = r.leadsTo (List.replicate m ['b']) := by
  cases r with
  | fromRoot ns => exact ⟨fun _ => rfl, fun _ => trivial⟩
  | upwards k ns =>
    have hforgets : (upwards k ns).Forgets m ↔ m ≤ k := Iff.rfl
    rw [hforgets, leadsTo_upwards, leadsTo_upwards, above_replicate, above_replicate]
    constructor
    · intro hle
      rw [Nat.sub_eq_zero_of_le hle]
      rfl
    · intro heq
      by_contra hlt
      -- the first name of the place is not climbed over, and it is `a` or `b`
      obtain ⟨j, hj⟩ : ∃ j, m - k = j + 1 := ⟨m - k - 1, by omega⟩
      rw [hj, List.replicate_succ, List.replicate_succ] at heq
      have hname := (List.cons.inj heq).1
      cases (List.cons.inj hname).1

theorem isName_of_mem_replicate {m : Nat} {n : Text} (hn : IsName n) :
    ∀ s ∈ List.replicate m n, IsName s := by
  intro s hs
  rwa [List.eq_of_mem_replicate hs]

/-- Routes are told apart by where they lead from working directories: the names by the root, the
levels by how deep a place has to be for the route to depend on it. -/
theorem Route.eq_of_leadsTo {r s : Route}
    (h : ∀ w, (∀ n ∈ w, IsName n) → r.leadsTo w = s.leadsTo w) : r = s := by
  have hnames : r.names = s.names := by
    rw [← leadsTo_root, ← leadsTo_root]
    exact h [] fun n hn => absurd hn List.not_mem_nil
  have hforgets (m : Nat) : r.Forgets m ↔ s.Forgets m := by
    rw [forgets_iff, forgets_iff, h _ (isName_of_mem_replicate (by decide)),
      h _ (isName_of_mem_replicate (by decide))]
  cases r with
  | fromRoot ns =>
    cases s with
    | fromRoot ms => exact congrArg fromRoot hnames
    | upwards j ms => exact absurd ((hforgets (j + 1)).mp trivial) (Nat.not_succ_le_self j)
  | upwards k ns =>
    cases s with
    | fromRoot ms => exact absurd ((hforgets (k + 1)).mpr trivial) (Nat.not_succ_le_self k)
    | upwards j ms =>
      have hle : k ≤ j := (hforgets k).mp (Nat.le_refl k)
      have hge : j ≤ k := (hforgets j).mpr (Nat.le_refl j)
      obtain rfl := Nat.le_antisymm hle hge
      exact congrArg (upwards k) hnames

/-! ## The normal form is canonical -/

/-- The normal form leads where the path leads, from every working directory; and it is the same
text for two paths exactly if they lead to the same place from every working directory. It is in
normal form, it is absolute exactly if the path is, and it is spelled by names behind the root or by
a number of `..` and names behind these, if it is not a single dot. -/
theorem normalize_canonical (p : Path) :
    (∀ w, endpoint w p.normalize = endpoint w p) ∧
    (∀ q : Path, p.normalize.text = q.normalize.text ↔
      ∀ w, (∀ n ∈ w, IsName n) → endpoint w p = endpoint w q) ∧
    p.normalize.normalize = p.normalize ∧
    p.normalize.isAbsolute = p.isAbsolute ∧
    ((p.isAbsolute = true ∧ ∃ names, (∀ n ∈ names, IsName n) ∧
        p.normalize.text = '/' :: Text.joinWith ['/'] names) ∨
      (p.isAbsolute = false ∧ ∃ levels names, (∀ n ∈ names, IsName n) ∧
        List.replicate levels ['.', '.'] ++ names ≠ [] ∧
        p.normalize.text = Text.joinWith ['/'] (List.replicate levels ['.', '.'] ++ names)) ∨
      (p.isAbsolute = false ∧ p.normalize.text = ['.'])) := by
  have hend (q : Path) (w : List Text) : endpoint w q.normalize = endpoint w q := by
    rw [endpoint_eq, route_normalize, endpoint_eq]
  refine ⟨hend p, fun q => ⟨fun h w _ => ?_, fun h => ?_⟩, ?_, ?_, ?_⟩
  · have hnormal : p.normalize = q.normalize := congrArg Path.mk h
    rw [← hend p, hnormal, hend q]
  · have hroute : p.route = q.route := Route.eq_of_leadsTo fun w hw => by
      rw [← endpoint_eq, ← endpoint_eq, h w hw]
    rw [normalize_eq, normalize_eq, hroute]
  · rw [normalize_eq p.normalize, route_normalize, ← normalize_eq]
  · rw [← isRooted_route, route_normalize, isRooted_route]
  · have hnames := isName_of_mem_route p
    rw [normalize_eq, ← isRooted_route]
    cases hroute : p.route with
    | fromRoot ns =>
      rw [hroute] at hnames
      exact .inl ⟨rfl, ns, hnames, by rw [Route.path_fromRoot]⟩
    | upwards k ns =>
      rw [hroute] at hnames
      by_cases hne : List.replicate k ['.', '.'] ++ ns = []
      · obtain ⟨hk, rfl⟩ := List.append_eq_nil_iff.mp hne
        obtain rfl : k = 0 := by simpa using hk
        exact .inr (.inr ⟨rfl, rfl⟩)
      · exact .inr (.inl ⟨rfl, k, ns, hnames, hne, by rw [Route.path_upwards hne]⟩)

end StyleVars.Path
