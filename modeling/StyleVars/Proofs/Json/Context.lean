import Mathlib.Data.List.TakeWhile
import StyleVars.Proofs.Json.Object
import StyleVars.Proofs.Text.Affix

/-
  A value in front of other text. What a reader takes from a text alone it takes as well when
  something follows that cannot continue a number, and with any more steps than it needs (`agree`).
  So the values of an object may have any texts that are read as values, with blanks, escapes and
  forms of numbers as they please, and the object lists each of them under its name
  (`objectMembers?_joinWith`).

  The induction is on the steps. One step is stated apart for each of the three readers, with the
  steps left over as its hypothesis (`Agree`).
-/

namespace StyleVars.Json

variable {r : Text}

/-! ## Numbers -/

theorem digits_append_right (hr : EndsNumber r) (t : Text) :
    digits (t ++ r) = ((digits t).1, (digits t).2 ++ r) := by
  induction t with
  | nil => exact @digits_append [] r (fun _ h => absurd h List.not_mem_nil) hr
  | cons c t ih =>
    unfold digits at ih ⊢
    rw [List.span_eq_takeWhile_dropWhile, List.span_eq_takeWhile_dropWhile] at ih ⊢
    obtain ⟨htake, hdrop⟩ := Prod.mk.inj ih
    by_cases hc : c.isDigit = true
    · rw [List.cons_append, List.takeWhile_cons_of_pos hc, List.dropWhile_cons_of_pos hc, htake,
        hdrop, List.takeWhile_cons_of_pos hc, List.dropWhile_cons_of_pos hc]
    · rw [List.cons_append, List.takeWhile_cons_of_neg hc, List.dropWhile_cons_of_neg hc,
        List.takeWhile_cons_of_neg hc, List.dropWhile_cons_of_neg hc, List.cons_append]

theorem fractionPart_point (t : Text) :
    fractionPart ('.' :: t) =
      if (digits t).1.isEmpty then none else some (some (digits t).1, (digits t).2) := rfl

theorem fractionPart_of_ne {c : Char} (hc : c ≠ '.') (t : Text) :
    fractionPart (c :: t) = some (none, c :: t) := by
  unfold fractionPart
  split
  · next he => exact absurd (List.cons.inj he).1 hc
  · rfl

theorem fractionPart_append (hr : EndsNumber r) {t rest : Text} {part : Option Text}
    (h : fractionPart t = some (part, rest)) :
    fractionPart (t ++ r) = some (part, rest ++ r) := by
  cases t with
  | nil =>
    cases h
    exact fractionPart_of_endsNumber hr
  | cons c t =>
    rw [List.cons_append]
    by_cases hc : c = '.'
    · subst hc
      rw [fractionPart_point] at h ⊢
      rw [digits_append_right hr]
      dsimp only
      split at h
      · cases h
      · next hne =>
        rw [if_neg hne]
        cases h
        rfl
    · rw [fractionPart_of_ne hc] at h ⊢
      cases h
      rfl

/-- The sign of an exponent, and what follows it. -/
def exponentSign : Text → Bool × Text
  | '+' :: t => (false, t)
  | '-' :: t => (true, t)
  | t => (false, t)

theorem exponentSign_plain {t : Text} (hplus : ∀ u, t ≠ '+' :: u) (hminus : ∀ u, t ≠ '-' :: u) :
    exponentSign t = (false, t) := by
  unfold exponentSign
  split
  · exact absurd rfl (hplus _)
  · exact absurd rfl (hminus _)
  · rfl

theorem exponentSign_append {t : Text} (ht : t ≠ []) (r : Text) :
    exponentSign (t ++ r) = ((exponentSign t).1, (exponentSign t).2 ++ r) := by
  obtain ⟨c, t, rfl⟩ := List.exists_cons_of_ne_nil ht
  by_cases hplus : c = '+'
  · subst hplus
    rfl
  by_cases hminus : c = '-'
  · subst hminus
    rfl
  have hplain (u : Text) : exponentSign (c :: u) = (false, c :: u) :=
    exponentSign_plain (fun _ he => hplus (List.cons.inj he).1)
      fun _ he => hminus (List.cons.inj he).1
  rw [List.cons_append, hplain, hplain]
  rfl

theorem exponentPart_mark {c : Char} (hc : c = 'e' ∨ c = 'E') (t : Text) :
    exponentPart (c :: t) =
      let (negative, u) := exponentSign t
      let n := numberOfDigits 10 (digits u).1
      if (digits u).1.isEmpty then none
      else some (some (if negative then -n else n), (digits u).2) := by
  unfold exponentPart
  dsimp only
  rw [if_pos hc]
  split
  · rfl
  · rfl
  · next hplus hminus =>
    rw [exponentSign_plain hplus hminus]

theorem exponentPart_append (hr : EndsNumber r) {t rest : Text} {exponent : Option Int}
    (h : exponentPart t = some (exponent, rest)) :
    exponentPart (t ++ r) = some (exponent, rest ++ r) := by
  cases t with
  | nil =>
    cases h
    exact exponentPart_of_endsNumber hr
  | cons c t =>
    rw [List.cons_append]
    by_cases hc : c = 'e' ∨ c = 'E'
    · rw [exponentPart_mark hc] at h ⊢
      have ht : t ≠ [] := by
        rintro rfl
        cases h
      rw [exponentSign_append ht]
      dsimp only at h ⊢
      rw [digits_append_right hr]
      dsimp only
      split at h
      · cases h
      · next hne =>
        rw [if_neg hne]
        cases h
        rfl
    · have hnone (u : Text) : exponentPart (c :: u) = some (none, c :: u) := if_neg hc
      rw [hnone] at h ⊢
      cases h
      rfl

theorem numberParts_append (hr : EndsNumber r) {t rest : Text}
    {parts : Text × Option Text × Option Int} (h : numberParts t = some (parts, rest)) :
    numberParts (t ++ r) = some (parts, rest ++ r) := by
  unfold numberParts at h ⊢
  rw [digits_append_right hr]
  dsimp only at h ⊢
  split at h
  · cases h
  · next hwhole =>
    obtain ⟨⟨part, behind⟩, hpart, h⟩ := Option.bind_eq_some_iff.mp h
    obtain ⟨⟨exponent, rest'⟩, hexponent, he⟩ := Option.map_eq_some_iff.mp h
    rw [if_neg hwhole, fractionPart_append hr hpart, Option.bind_some]
    dsimp only
    rw [exponentPart_append hr hexponent]
    cases he
    rfl

theorem unsigned_append (hr : EndsNumber r) {negative : Bool} {t rest : Text} {v : Json}
    (h : unsigned negative t = some (v, rest)) :
    unsigned negative (t ++ r) = some (v, rest ++ r) := by
  unfold unsigned at h ⊢
  cases hparts : numberParts t with
  | none =>
    rw [hparts] at h
    cases h
  | some parts =>
    obtain ⟨⟨whole, part, exponent⟩, behind⟩ := parts
    rw [hparts] at h
    rw [numberParts_append hr hparts]
    have hmap {α : Type} {x : Option α} {f : α → Json}
        (h : (x.map fun a => (f a, behind)) = some (v, rest)) :
        (x.map fun a => (f a, behind ++ r)) = some (v, rest ++ r) := by
      obtain ⟨a, rfl, he⟩ := Option.map_eq_some_iff.mp h
      cases he
      rfl
    cases part with
    | some part => exact hmap h
    | none =>
      cases exponent with
      | some exponent => exact hmap h
      | none => exact hmap (f := id) h

/-- A number literal starts as a number does. -/
theorem startsNumber_of_number {t rest : Text} {v : Json} (h : number t = some (v, rest)) :
    StartsNumber t := by
  cases t with
  | nil => cases h
  | cons c u =>
    refine ⟨c, u, rfl, ?_⟩
    by_contra hc
    rw [not_or] at hc
    have hnone : numberParts (c :: u) = none := by
      unfold numberParts digits
      rw [List.span_eq_takeWhile_dropWhile, List.takeWhile_cons_of_neg hc.1]
      rfl
    rw [number_of_ne_minus hc.2, unsigned, hnone] at h
    cases h

theorem number_append (hr : EndsNumber r) {t rest : Text} {v : Json}
    (h : number t = some (v, rest)) : number (t ++ r) = some (v, rest ++ r) := by
  obtain ⟨c, u, rfl, -⟩ := startsNumber_of_number h
  rw [List.cons_append]
  by_cases hc : c = '-'
  · subst hc
    rw [number_minus] at h ⊢
    exact unsigned_append hr h
  · rw [number_of_ne_minus hc] at h ⊢
    exact unsigned_append hr h

/-! ## Words and strings -/

theorem word_append {w t rest : Text} {v u : Json} (h : word w v t = some (u, rest)) (r : Text) :
    word w v (t ++ r) = some (u, rest ++ r) := by
  obtain ⟨behind, hbehind, he⟩ := Option.map_eq_some_iff.mp h
  obtain rfl := Text.stripPrefix?_eq_some.mp hbehind
  cases he
  unfold word
  rw [List.append_assoc, Text.stripPrefix?_append]
  rfl

/-- What is made of a value that is read is made of it in front of other text. -/
theorem map_append {α β : Type} {x y : Option (α × Text)} {f : α → β} {b : β} {rest r : Text}
    (h : (x.map fun (a, t) => (f a, t)) = some (b, rest))
    (hxy : ∀ {a behind}, x = some (a, behind) → y = some (a, behind ++ r)) :
    (y.map fun (a, t) => (f a, t)) = some (b, rest ++ r) := by
  obtain ⟨⟨a, behind⟩, hx, he⟩ := Option.map_eq_some_iff.mp h
  rw [hxy hx]
  cases he
  rfl

theorem stringRest_append {lead : Option Nat} {t s rest : Text}
    (h : stringRest lead t = some (s, rest)) (r : Text) :
    stringRest lead (t ++ r) = some (s, rest ++ r) := by
  -- The cases that read nothing are the ends and escapes no string may have; the others read one
  -- character, or half of one, in front of the induction hypothesis.
  induction lead, t using stringRest.induct generalizing s rest with
  | case1 => cases h
  | case2 lead a b c d u hunit =>
    rw [stringRest.eq_2 _ _ _ _ _ _ hunit] at h
    cases h
  | case3 a b c d u n hi hunit hlow ih =>
    simp only [List.cons_append]
    rw [stringRest.eq_3 _ _ _ _ _ _ _ hunit, if_pos hlow] at h ⊢
    generalize Char.ofNat (0x10000 + (hi - 0xD800) * 0x400 + (n - 0xDC00)) = e at h ⊢
    exact map_append (f := (e :: ·)) h ih
  | case4 a b c d u n hi hunit hlow =>
    rw [stringRest.eq_3 _ _ _ _ _ _ _ hunit, if_neg hlow] at h
    cases h
  | case5 a b c d u n hunit hhigh ih =>
    simp only [List.cons_append]
    rw [stringRest.eq_4 _ _ _ _ _ _ hunit, if_pos hhigh] at h ⊢
    exact ih h
  | case6 a b c d u n hunit hhigh hlow =>
    rw [stringRest.eq_4 _ _ _ _ _ _ hunit, if_neg hhigh, if_pos hlow] at h
    cases h
  | case7 a b c d u n hunit hhigh hlow ih =>
    simp only [List.cons_append]
    rw [stringRest.eq_4 _ _ _ _ _ _ hunit, if_neg hhigh, if_neg hlow] at h ⊢
    generalize Char.ofNat n = e at h ⊢
    exact map_append (f := (e :: ·)) h ih
  | case8 c u _ e he ih =>
    simp only [List.cons_append]
    rw [stringRest_short he] at h ⊢
    exact map_append (f := (e :: ·)) h ih
  | case9 lead c u hunit hshort =>
    rw [stringRest.eq_6 _ _ _ hunit hshort] at h
    cases h
  | case10 lead c u hunit hshort hbad =>
    rw [stringRest.eq_7 _ _ _ hunit hshort, if_pos hbad] at h
    cases h
  | case11 lead u hunit hshort hbad =>
    rw [stringRest.eq_7 _ _ _ hunit hshort, if_neg hbad, if_pos rfl] at h
    cases h
    rw [List.cons_append, stringRest.eq_7 _ _ _ (fun _ _ _ _ _ he => absurd he (by decide))
      (fun _ _ he => absurd he (by decide)), if_neg hbad, if_pos rfl]
  | case12 lead c u hunit hshort hbad hquote ih =>
    have hc : c ≠ '\\' := fun he => hbad (.inr (.inl he))
    rw [stringRest.eq_7 _ _ _ hunit hshort, if_neg hbad, if_neg hquote] at h
    rw [List.cons_append, stringRest.eq_7 _ _ _ (fun _ _ _ _ _ he => absurd he hc)
      (fun _ _ he => absurd he hc), if_neg hbad, if_neg hquote]
    exact map_append (f := (c :: ·)) h ih

/-! ## Values -/

theorem dropBlanks_append_of_cons {t u : Text} {c : Char} (h : dropBlanks t = c :: u) (r : Text) :
    dropBlanks (t ++ r) = c :: (u ++ r) := by
  unfold dropBlanks at h ⊢
  rw [List.dropWhile_append, h]
  rfl

theorem dropBlanks_append_of_nil {t : Text} (h : dropBlanks t = []) (r : Text) :
    dropBlanks (t ++ r) = dropBlanks r := by
  unfold dropBlanks at h ⊢
  rw [List.dropWhile_append, h]
  rfl

theorem value_dropBlanks (fuel n : Nat) (t : Text) : value fuel n t = value fuel n (dropBlanks t) := by
  have hblanks : ∀ c ∈ t.takeWhile isBlank, isBlank c = true := fun _ => List.mem_takeWhile_imp
  have hsplit : t = t.takeWhile isBlank ++ dropBlanks t := List.takeWhile_append_dropWhile.symm
  rw [← value_blanks hblanks fuel n (dropBlanks t), ← hsplit]

theorem value_nil (fuel n : Nat) : value fuel n [] = none := by
  cases fuel <;> rfl

theorem items_nil (fuel n : Nat) : items fuel n [] = none := by
  cases fuel with
  | zero => rfl
  | succ fuel => rw [items, value_nil]

theorem members_nil (fuel n : Nat) : members fuel n [] = none := by
  cases fuel <;> rfl

/-- A list behind its opening bracket: nothing and the closing one, or what `read` takes. -/
def listRest {α : Type} (close : Char) (read : Text → Option (List α × Text)) (t : Text) :
    Option (List α × Text) :=
  match dropBlanks t with
  | [] => none
  | c :: u => if c = close then some ([], u) else read (c :: u)

theorem listRest_append {α : Type} {close : Char} {read read' : Text → Option (List α × Text)}
    {t rest : Text} {xs : List α} (hread : listRest close read t = some (xs, rest))
    (h : ∀ {t xs rest}, read t = some (xs, rest) → read' (t ++ r) = some (xs, rest ++ r)) :
    listRest close read' (t ++ r) = some (xs, rest ++ r) := by
  unfold listRest at hread ⊢
  cases ht : dropBlanks t with
  | nil =>
    rw [ht] at hread
    cases hread
  | cons c u =>
    rw [ht] at hread
    rw [dropBlanks_append_of_cons ht]
    dsimp only at hread ⊢
    by_cases hc : c = close
    · rw [if_pos hc] at hread ⊢
      cases hread
      rfl
    · rw [if_neg hc] at hread ⊢
      exact h hread

theorem value_of_bracket {fuel n : Nat} {t u : Text} (ht : dropBlanks t = '[' :: u) :
    value (fuel + 1) (n + 1) t =
      (listRest ']' (items fuel n) u).map fun (vs, r) => (.array vs, r) := by
  rw [value_dropBlanks, ht, value_bracket]
  unfold listRest
  cases hu : dropBlanks u with
  | nil => exact congrArg (Option.map fun (vs, r) => (array vs, r)) (items_nil fuel n)
  | cons c w =>
    dsimp only
    split
    · next he =>
      obtain ⟨rfl, rfl⟩ := List.cons.inj he
      rfl
    · next hne =>
      have hc : c ≠ ']' := by
        rintro rfl
        exact hne w rfl
      rw [if_neg hc]

theorem value_of_brace {fuel n : Nat} {t u : Text} (ht : dropBlanks t = '\x7b' :: u) :
    value (fuel + 1) (n + 1) t =
      (listRest '\x7d' (members fuel n) u).map fun (ms, r) => (.object (ofMembers ms), r) := by
  rw [value_brace ht]
  congr 1
  unfold objectRest listRest
  cases hu : dropBlanks u with
  | nil => exact members_nil fuel n
  | cons c w =>
    dsimp only
    split
    · next he =>
      obtain ⟨rfl, rfl⟩ := List.cons.inj he
      rfl
    · next hne =>
      have hc : c ≠ '\x7d' := by
        rintro rfl
        exact hne w rfl
      rw [if_neg hc]

/-- What the readers take with so many steps they take with so many more in front of the text. -/
structure Agree (r : Text) (fuel more : Nat) : Prop where
  value {n : Nat} {t rest : Text} {v : Json} :
    value fuel n t = some (v, rest) → value more n (t ++ r) = some (v, rest ++ r)
  items {n : Nat} {t rest : Text} {vs : List Json} :
    items fuel n t = some (vs, rest) → items more n (t ++ r) = some (vs, rest ++ r)
  members {n : Nat} {t rest : Text} {ms : List (Text × Json)} :
    members fuel n t = some (ms, rest) → members more n (t ++ r) = some (ms, rest ++ r)

namespace Agree

variable {fuel more n : Nat} {t rest : Text} (h : Agree r fuel more)

include h

theorem itemsAfter_append {v : Json} {vs : List Json}
    (hread : itemsAfter fuel n v t = some (vs, rest)) :
    itemsAfter more n v (t ++ r) = some (vs, rest ++ r) := by
  unfold itemsAfter at hread ⊢
  split at hread
  · next ht =>
    rw [dropBlanks_append_of_cons ht]
    exact map_append hread h.items
  · next ht =>
    rw [dropBlanks_append_of_cons ht]
    cases hread
    rfl
  · cases hread

theorem membersAfter_append {f : Text × Json} {ms : List (Text × Json)}
    (hread : membersAfter fuel n f t = some (ms, rest)) :
    membersAfter more n f (t ++ r) = some (ms, rest ++ r) := by
  unfold membersAfter at hread ⊢
  split at hread
  · next ht =>
    rw [dropBlanks_append_of_cons ht]
    exact map_append hread h.members
  · next ht =>
    rw [dropBlanks_append_of_cons ht]
    cases hread
    rfl
  · cases hread

theorem items_succ {vs : List Json} (hread : Json.items (fuel + 1) n t = some (vs, rest)) :
    Json.items (more + 1) n (t ++ r) = some (vs, rest ++ r) := by
  cases hv : Json.value fuel n t with
  | none =>
    rw [Json.items, hv] at hread
    cases hread
  | some p =>
    obtain ⟨v, behind⟩ := p
    rw [items_of_value hv] at hread
    rw [items_of_value (h.value hv)]
    exact h.itemsAfter_append hread

theorem members_succ {ms : List (Text × Json)}
    (hread : Json.members (fuel + 1) n t = some (ms, rest)) :
    Json.members (more + 1) n (t ++ r) = some (ms, rest ++ r) := by
  rw [Json.members] at hread
  split at hread
  case h_2 => cases hread
  next ht =>
    split at hread
    case h_1 => cases hread
    next hk =>
      split at hread
      case h_2 => cases hread
      next ha =>
        split at hread
        case h_1 => cases hread
        next hv =>
          rw [members_of_reads (dropBlanks_append_of_cons ht r) (stringRest_append hk r)
            (dropBlanks_append_of_cons ha r) (h.value hv)]
          exact h.membersAfter_append hread

theorem value_succ (hr : EndsNumber r) {v : Json}
    (hread : Json.value (fuel + 1) n t = some (v, rest)) :
    Json.value (more + 1) n (t ++ r) = some (v, rest ++ r) := by
  -- The first character chooses the reader, and what follows the text does not change it.
  have hwhole := hread
  rw [Json.value] at hread
  split at hread
  case h_1 ht =>
    rw [Json.value, dropBlanks_append_of_cons ht]
    exact word_append hread r
  case h_2 ht =>
    rw [Json.value, dropBlanks_append_of_cons ht]
    exact word_append hread r
  case h_3 ht =>
    rw [Json.value, dropBlanks_append_of_cons ht]
    exact word_append hread r
  case h_4 ht =>
    rw [Json.value, dropBlanks_append_of_cons ht]
    exact map_append hread fun hs => stringRest_append hs r
  case h_5 ht =>
    cases n with
    | zero => cases hread
    | succ n =>
      rw [value_of_bracket ht] at hwhole
      rw [value_of_bracket (dropBlanks_append_of_cons ht r)]
      exact map_append hwhole fun hlist => listRest_append hlist h.items
  case h_6 ht =>
    cases n with
    | zero => cases hread
    | succ n =>
      rw [value_of_brace ht] at hwhole
      rw [value_of_brace (dropBlanks_append_of_cons ht r)]
      exact map_append (f := fun ms => object (ofMembers ms)) hwhole fun hlist =>
        listRest_append hlist h.members
  case h_7 =>
    have hstart := startsNumber_of_number hread
    have hdrop : dropBlanks (t ++ r) = dropBlanks t ++ r := by
      obtain ⟨c, u, hc, -⟩ := hstart
      rw [dropBlanks_append_of_cons hc, hc, List.cons_append]
    rw [value_dropBlanks, hdrop]
    exact value_number (number_append hr hread) (hstart.append r) more n

end Agree

/-- In front of a text that cannot continue a number, and with more steps than they need, the
readers take what they take alone. -/
theorem agree (hr : EndsNumber r) {fuel more : Nat} (hle : fuel ≤ more) : Agree r fuel more := by
  induction fuel generalizing more with
  | zero =>
    constructor
    all_goals
      intro _ _ _ _ h
      cases h
  | succ fuel ih =>
    obtain ⟨more, rfl⟩ := Nat.exists_eq_succ_of_ne_zero (Nat.ne_zero_of_lt hle)
    have hagree := ih (Nat.le_of_succ_le_succ hle)
    exact ⟨hagree.value_succ hr, hagree.items_succ, hagree.members_succ⟩

/-! ## Fields with any values -/

/-- The value of a text that holds one value, of at most so many levels, and nothing else but
blanks. -/
def readWithin? (levels : Nat) (t : Text) : Option Json :=
  match value (stepsFor t) levels t with
  | some (v, r) => if (dropBlanks r).isEmpty then some v else none
  | none => none

theorem readWithin?_eq_some {n : Nat} {t : Text} {v : Json} :
    readWithin? n t = some v ↔
      ∃ blanks, value (stepsFor t) n t = some (v, blanks) ∧ dropBlanks blanks = [] := by
  unfold readWithin?
  constructor
  · intro h
    split at h
    · next v' blanks hv =>
      split at h
      · next hblanks =>
        cases h
        exact ⟨blanks, hv, List.isEmpty_iff.mp hblanks⟩
      · cases h
    · cases h
  · rintro ⟨blanks, hv, hblanks⟩
    rw [hv]
    dsimp only
    rw [hblanks]
    rfl

section Fields

variable {α : Type} {n : Nat} {name text : α → Text} {item : α → Json}

/-- The text of a field. -/
def fieldText (name text : Text) : Text := stringLiteral name ++ ':' :: ' ' :: text

/-- A field is read where its value is. -/
theorem members_fieldText {fuel : Nat} {k t : Text} {v : Json} (h : readWithin? n t = some v)
    (hfuel : stepsFor t ≤ fuel) (hr : EndsNumber r) :
    members (fuel + 1) n (fieldText k t ++ r) = membersAfter fuel n (k, v) r := by
  obtain ⟨blanks, hv, hblanks⟩ := readWithin?_eq_some.mp h
  have hblank : ∀ c ∈ [' '], isBlank c = true := List.all_eq_true.mp (by decide)
  have hvalue : value fuel n ([' '] ++ (t ++ r)) = some (v, blanks ++ r) := by
    rw [value_blanks hblank]
    exact (agree hr hfuel).value hv
  have hread := members_of_value (stringSpelling_escape k) hvalue
  unfold membersAfter at hread ⊢
  rw [dropBlanks_append_of_nil hblanks] at hread
  rw [← hread]
  simp [fieldText, stringLiteral]

theorem length_fieldText (k t : Text) : stepsFor t + 6 ≤ 2 * (fieldText k t).length := by
  unfold fieldText stringLiteral stepsFor
  simp only [List.length_append, List.length_cons, List.length_nil]
  omega

/-- Fields one by one, with commas between them, whatever texts their values have. -/
theorem members_joinWith {fs : List α} (hne : fs ≠ [])
    (h : ∀ f ∈ fs, readWithin? n (text f) = some (item f)) :
    let t := Text.joinWith [','] (fs.map fun f => fieldText (name f) (text f)) ++ ['\x7d']
    ∀ fuel, 2 * t.length ≤ fuel →
      members fuel n t = some (fs.map fun f => (name f, item f), []) := by
  refine Text.joinWith_induction
    (motive := fun ms t => ∀ fuel, 2 * t.length ≤ fuel → members fuel n t = some (ms, [])) hne
    (fun f hf fuel hfuel => ?_) fun f hf ms t ht fuel hfuel => ?_
  all_goals
    have hlength := length_fieldText (name f) (text f)
    simp only [List.length_append, List.length_singleton] at hfuel
    obtain ⟨fuel, rfl⟩ : ∃ m, fuel = m + 1 := ⟨fuel - 1, by omega⟩
  · rw [members_fieldText (h f hf) (by omega) (endsNumber_cons (by decide) [])]
    rfl
  · rw [List.singleton_append,
      members_fieldText (h f hf) (by omega) (endsNumber_cons (by decide) t)]
    exact congrArg (Option.map _) (ht fuel (by omega))

theorem joinWith_fieldText (name text : α → Text) {fs : List α} (hne : fs ≠ []) (r : Text) :
    ∃ s, Text.joinWith [','] (fs.map fun f => fieldText (name f) (text f)) ++ r = '"' :: s := by
  cases fs with
  | nil => exact absurd rfl hne
  | cons f fs =>
    obtain ⟨u, hu⟩ : ∃ u, fieldText (name f) (text f) = '"' :: u := ⟨_, rfl⟩
    rw [Text.joinWith, List.map_cons, hu, List.intercalate_cons_cons_left]
    exact ⟨_, rfl⟩

/-- An object text lists its fields, whatever texts their values have. -/
theorem objectMembers?_joinWith {fs : List α}
    (h : ∀ f ∈ fs, readWithin? (nestingLimit - 1) (text f) = some (item f)) :
    objectMembers? ('\x7b' :: Text.joinWith [','] (fs.map fun f => fieldText (name f) (text f)) ++
      ['\x7d']) = some (fs.map fun f => (name f, item f)) := by
  by_cases hne : fs = []
  · subst hne
    rfl
  · obtain ⟨s, hs⟩ := joinWith_fieldText name text hne ['\x7d']
    rw [List.cons_append]
    refine objectMembers?_of_members hs (members_joinWith hne h _ ?_)
    rw [stepsFor, List.length_cons]
    omega

end Fields

end StyleVars.Json
