import StyleVars.Proofs.Json.Literal
import StyleVars.Proofs.Text.Split

/-
  The texts of a JSON value that holds no floating-point number. A grammar gives every value its
  spellings: characters of strings are spelled freely, and blanks may stand after the colon of a
  field. The reader takes the value back from each of them as long as it may open enough levels
  (`read?_spelling`), and the compact text the printer writes is one (`Plain.spelling`).

  The reader's steps are counted down: a text needs no more of them than it has characters, since
  each step into a list, an object or a member leaves at least one character behind.
-/

namespace StyleVars.Json

mutual

/-- The spellings of a value that opens at most so many levels. -/
inductive Spelling : Nat → Json → Text → Prop
  | null {n : Nat} : Spelling n .null "null".toList
  | bool {n : Nat} (b : Bool) : Spelling n (.bool b) (render (.bool b))
  | integer {n : Nat} {i : Int} : IsWord64 i → Spelling n (.integer i) (Text.ofInt i)
  | string {n : Nat} {t raw : Text} : StringSpelling t raw →
      Spelling n (.string t) ('"' :: (raw ++ ['"']))
  | emptyArray {n : Nat} : Spelling (n + 1) (.array []) ['[', ']']
  | array {n : Nat} {vs : List Json} {t : Text} : ItemsSpelling n vs t →
      Spelling (n + 1) (.array vs) ('[' :: t)
  | emptyObject {n : Nat} : Spelling (n + 1) (.object []) ['\x7b', '\x7d']
  | object {n : Nat} {fs : List (Text × Json)} {t : Text} : (fs.map Prod.fst).Nodup →
      FieldsSpelling n fs t → Spelling (n + 1) (.object fs) ('\x7b' :: t)

/-- The spellings of the members of an array with the closing bracket. -/
inductive ItemsSpelling : Nat → List Json → Text → Prop
  | last {n : Nat} {v : Json} {t : Text} : Spelling n v t → ItemsSpelling n [v] (t ++ [']'])
  | cons {n : Nat} {v : Json} {t : Text} {vs : List Json} {ts : Text} : Spelling n v t →
      ItemsSpelling n vs ts → ItemsSpelling n (v :: vs) (t ++ ',' :: ts)

/-- The spellings of one field of an object. -/
inductive FieldSpelling : Nat → Text × Json → Text → Prop
  | mk {n : Nat} {k raw blanks : Text} {v : Json} {t : Text} : StringSpelling k raw →
      (∀ c ∈ blanks, isBlank c = true) → Spelling n v t →
      FieldSpelling n (k, v) ('"' :: (raw ++ '"' :: ':' :: (blanks ++ t)))

/-- The spellings of the fields of an object with the closing brace. -/
inductive FieldsSpelling : Nat → List (Text × Json) → Text → Prop
  | last {n : Nat} {f : Text × Json} {t : Text} : FieldSpelling n f t →
      FieldsSpelling n [f] (t ++ ['\x7d'])
  | cons {n : Nat} {f : Text × Json} {t : Text} {fs : List (Text × Json)} {ts : Text} :
      FieldSpelling n f t → FieldsSpelling n fs ts → FieldsSpelling n (f :: fs) (t ++ ',' :: ts)

end

/-! ## First characters -/

/-- A text whose first character can start a value: the reader neither skips it nor takes it for
the end of an empty array. -/
def StartsValue (t : Text) : Prop := ∃ c r, t = c :: r ∧ isBlank c = false ∧ c ≠ ']'

theorem StartsValue.append {t : Text} (h : StartsValue t) (r : Text) : StartsValue (t ++ r) := by
  obtain ⟨c, s, rfl, hc⟩ := h
  exact ⟨c, s ++ r, rfl, hc⟩

theorem StartsValue.dropBlanks {t : Text} (h : StartsValue t) : dropBlanks t = t := by
  obtain ⟨c, s, rfl, hc, -⟩ := h
  exact List.dropWhile_cons_of_neg (by simp [hc])

/-- A text that starts as a number does: with a digit or a minus sign. -/
def StartsNumber (t : Text) : Prop := ∃ c r, t = c :: r ∧ (c.isDigit = true ∨ c = '-')

/-- A digit or a minus sign is no other character. -/
theorem numberStart_ne {c d : Char} (hc : c.isDigit = true ∨ c = '-') (hd : d.isDigit = false)
    (hm : d ≠ '-') : c ≠ d := by
  rintro rfl
  rcases hc with hc | hc
  · rw [hd] at hc
    cases hc
  · exact hm hc

theorem StartsNumber.append {t : Text} (h : StartsNumber t) (r : Text) :
    StartsNumber (t ++ r) := by
  obtain ⟨c, s, rfl, hc⟩ := h
  exact ⟨c, s ++ r, rfl, hc⟩

theorem StartsNumber.startsValue {t : Text} (h : StartsNumber t) : StartsValue t := by
  obtain ⟨c, r, rfl, hc⟩ := h
  refine ⟨c, r, rfl, ?_, numberStart_ne hc rfl (by decide)⟩
  simp [isBlank, numberStart_ne hc (d := ' ') rfl (by decide),
    numberStart_ne hc (d := '\t') rfl (by decide), numberStart_ne hc (d := '\n') rfl (by decide),
    numberStart_ne hc (d := '\r') rfl (by decide)]

theorem startsNumber_ofInt (i : Int) : StartsNumber (Text.ofInt i) := by
  cases i with
  | ofNat n =>
    obtain ⟨c, cs, hcs, hc⟩ := ofNat_eq_cons n
    exact ⟨c, cs, hcs, .inl hc⟩
  | negSucc n => exact ⟨'-', Text.ofNat (n + 1), rfl, .inr rfl⟩

theorem Spelling.startsValue {n : Nat} {v : Json} {t : Text} (h : Spelling n v t) :
    StartsValue t := by
  cases h with
  | null => exact ⟨'n', _, rfl, rfl, by decide⟩
  | bool b =>
    cases b with
    | false => exact ⟨'f', _, rfl, rfl, by decide⟩
    | true => exact ⟨'t', _, rfl, rfl, by decide⟩
  | @integer _ i _ => exact (startsNumber_ofInt i).startsValue
  | string _ => exact ⟨'"', _, rfl, rfl, by decide⟩
  | emptyArray => exact ⟨'[', _, rfl, rfl, by decide⟩
  | array _ => exact ⟨'[', _, rfl, rfl, by decide⟩
  | emptyObject => exact ⟨'\x7b', _, rfl, rfl, by decide⟩
  | object _ _ => exact ⟨'\x7b', _, rfl, rfl, by decide⟩

theorem ItemsSpelling.startsValue {n : Nat} {vs : List Json} {t : Text}
    (h : ItemsSpelling n vs t) : StartsValue t := by
  cases h with
  | last h => exact h.startsValue.append _
  | cons h _ => exact h.startsValue.append _

theorem FieldsSpelling.eq_quote {n : Nat} {fs : List (Text × Json)} {t : Text}
    (h : FieldsSpelling n fs t) : ∃ s, t = '"' :: s := by
  cases h with
  | last h =>
    cases h
    exact ⟨_, rfl⟩
  | cons h _ =>
    cases h
    exact ⟨_, rfl⟩

/-! ## Steps of the reader -/

theorem dropBlanks_append {blanks : Text} (h : ∀ c ∈ blanks, isBlank c = true) (t : Text) :
    dropBlanks (blanks ++ t) = dropBlanks t :=
  List.dropWhile_append_of_pos h

theorem value_blanks {blanks : Text} (h : ∀ c ∈ blanks, isBlank c = true) (fuel n : Nat)
    (t : Text) : value fuel n (blanks ++ t) = value fuel n t := by
  cases fuel with
  | zero => rfl
  | succ fuel => rw [value, value, dropBlanks_append h]

/-- What starts as a number does is read as a number. -/
theorem value_number {t r : Text} {v : Json} (h : number t = some (v, r)) (ht : StartsNumber t)
    (fuel n : Nat) : value (fuel + 1) n t = some (v, r) := by
  rw [value, ht.startsValue.dropBlanks]
  obtain ⟨c, s, rfl, hc⟩ := ht
  -- No other kind of value starts with a digit or a minus sign.
  split
  case h_7 => exact h
  all_goals
    next he => exact absurd (List.cons.inj he).1 (numberStart_ne hc rfl (by decide))

theorem value_quote (fuel n : Nat) (r : Text) :
    value (fuel + 1) n ('"' :: r) = (stringRest none r).map fun (s, r) => (.string s, r) := rfl

theorem value_bracket (fuel n : Nat) (r : Text) :
    value (fuel + 1) (n + 1) ('[' :: r) =
      match dropBlanks r with
      | ']' :: r => some (.array [], r)
      | r => (items fuel n r).map fun (vs, r) => (.array vs, r) := rfl

theorem value_array {r : Text} (h : StartsValue r) (fuel n : Nat) :
    value (fuel + 1) (n + 1) ('[' :: r) = (items fuel n r).map fun (vs, r) => (.array vs, r) := by
  rw [value_bracket, h.dropBlanks]
  obtain ⟨c, s, rfl, -, hc⟩ := h
  split
  next he => exact absurd (List.cons.inj he).1 hc
  next => rfl

theorem value_object (fuel n : Nat) (r : Text) :
    value (fuel + 1) (n + 1) ('\x7b' :: '"' :: r) =
      (members fuel n ('"' :: r)).map fun (ms, r) => (.object (ofMembers ms), r) := rfl

/-- What follows a member of an array: more members, or the end. -/
def itemsAfter (fuel n : Nat) (v : Json) (r : Text) : Option (List Json × Text) :=
  match dropBlanks r with
  | ',' :: r => (items fuel n r).map fun (vs, r) => (v :: vs, r)
  | ']' :: r => some ([v], r)
  | _ => none

/-- What follows a field of an object: more fields, or the end. -/
def membersAfter (fuel n : Nat) (f : Text × Json) (r : Text) :
    Option (List (Text × Json) × Text) :=
  match dropBlanks r with
  | ',' :: r => (members fuel n r).map fun (ms, r) => (f :: ms, r)
  | '\x7d' :: r => some ([f], r)
  | _ => none

theorem items_of_value {fuel n : Nat} {t r : Text} {v : Json}
    (h : value fuel n t = some (v, r)) : items (fuel + 1) n t = itemsAfter fuel n v r := by
  rw [items, h]
  rfl

/-- A name, a colon and a value are read, then what follows them. -/
theorem members_of_reads {fuel n : Nat} {t u k a b r : Text} {v : Json}
    (ht : dropBlanks t = '"' :: u) (hk : stringRest none u = some (k, a))
    (ha : dropBlanks a = ':' :: b) (hv : value fuel n b = some (v, r)) :
    members (fuel + 1) n t = membersAfter fuel n (k, v) r := by
  rw [members]
  split
  next he =>
    obtain rfl := (List.cons.inj (ht.symm.trans he)).2
    rw [hk]
    dsimp only
    split
    next he =>
      obtain rfl := (List.cons.inj (ha.symm.trans he)).2
      rw [hv]
      rfl
    next hne => exact absurd ha (hne b)
  next hne => exact absurd ht (hne u)

theorem members_of_value {fuel n : Nat} {k raw t r : Text} {v : Json} (hk : StringSpelling k raw)
    (h : value fuel n t = some (v, r)) :
    members (fuel + 1) n ('"' :: (raw ++ '"' :: ':' :: t)) = membersAfter fuel n (k, v) r := by
  have hquote (s : Text) : dropBlanks ('"' :: s) = '"' :: s := rfl
  have hcolon (s : Text) : dropBlanks (':' :: s) = ':' :: s := rfl
  exact members_of_reads (hquote _) (stringRest_spelling hk _) (hcolon t) h

/-- A field is read where its value is. -/
theorem members_of_field {fuel n : Nat} {f : Text × Json} {t r : Text} (h : FieldSpelling n f t)
    (hl : t.length ≤ fuel + 1)
    (hvalue : ∀ {v t}, Spelling n v t → t.length ≤ fuel → value fuel n (t ++ r) = some (v, r)) :
    members (fuel + 1) n (t ++ r) = membersAfter fuel n f r := by
  cases h with
  | @mk _ k raw blanks v t hk hblanks hv =>
    have hlt : t.length ≤ fuel := by
      simp only [List.length_cons, List.length_append] at hl
      omega
    have hread : value fuel n (blanks ++ (t ++ r)) = some (v, r) := by
      rw [value_blanks hblanks]
      exact hvalue hv hlt
    simp only [List.cons_append, List.append_assoc]
    exact members_of_value hk hread

/-! ## Objects -/

theorem put_of_notMem {α : Type} {name : Text} {fs : List (Text × α)}
    (h : name ∉ fs.map Prod.fst) (value : α) : put name value fs = fs ++ [(name, value)] := by
  induction fs with
  | nil => rfl
  | cons f fs ih =>
    rw [List.map_cons, List.mem_cons, not_or] at h
    rw [put, if_neg (Ne.symm h.1), ih h.2]
    rfl

theorem foldl_put {α : Type} {ms fs : List (Text × α)} (h : ((fs ++ ms).map Prod.fst).Nodup) :
    ms.foldl (fun fields m => put m.1 m.2 fields) fs = fs ++ ms := by
  induction ms generalizing fs with
  | nil => rw [List.foldl_nil, List.append_nil]
  | cons m ms ih =>
    have hm : m.1 ∉ fs.map Prod.fst := by
      rw [List.map_append, List.nodup_append] at h
      exact fun hmem => h.2.2 m.1 hmem m.1 List.mem_cons_self rfl
    rw [List.foldl_cons, put_of_notMem hm, ih, List.append_assoc, List.singleton_append]
    rwa [List.append_assoc, List.singleton_append]

/-- Fields with distinct names are taken as they stand. -/
theorem ofMembers_of_nodup {α : Type} {ms : List (Text × α)} (h : (ms.map Prod.fst).Nodup) :
    ofMembers ms = ms :=
  foldl_put h

/-! ## Reading back -/

/-- With a step for each character the reader takes a value, the members of an array and the
fields of an object back from their spellings, and leaves what follows. -/
theorem spelling_read (fuel : Nat) :
    (∀ {n v t r}, Spelling n v t → t.length ≤ fuel → EndsNumber r →
      value fuel n (t ++ r) = some (v, r)) ∧
    (∀ {n vs t} (r), ItemsSpelling n vs t → t.length ≤ fuel →
      items fuel n (t ++ r) = some (vs, r)) ∧
    (∀ {n fs t} (r), FieldsSpelling n fs t → t.length ≤ fuel →
      members fuel n (t ++ r) = some (fs, r)) := by
  induction fuel with
  | zero =>
    refine ⟨fun h hl _ => ?_, fun _ h hl => ?_, fun _ h hl => ?_⟩
    · obtain ⟨c, s, rfl, -⟩ := h.startsValue
      simp at hl
    · obtain ⟨c, s, rfl, -⟩ := h.startsValue
      simp at hl
    · cases h <;> simp at hl
  | succ fuel ih =>
    -- A value is read in one step; the opening bracket, or the comma or bracket behind it, pays
    -- for that step, so the induction hypothesis covers what is left.
    obtain ⟨ihValue, ihItems, ihFields⟩ := ih
    have hcomma (r : Text) : EndsNumber (',' :: r) := endsNumber_cons (by decide) r
    have hbracket (r : Text) : EndsNumber (']' :: r) := endsNumber_cons (by decide) r
    have hbrace (r : Text) : EndsNumber ('\x7d' :: r) := endsNumber_cons (by decide) r
    refine ⟨fun {n v t r} h hl hr => ?_, fun {n vs t} r h hl => ?_, fun {n fs t} r h hl => ?_⟩
    · cases h with
      | null => rfl
      | bool b => cases b <;> rfl
      | @integer _ i hi =>
        exact value_number (number_ofInt hi hr) ((startsNumber_ofInt i).append r) fuel n
      | @string _ s raw hs =>
        rw [List.cons_append, List.append_assoc, List.singleton_append, value_quote,
          stringRest_spelling hs]
        rfl
      | emptyArray => rfl
      | array h =>
        rw [List.length_cons, Nat.add_le_add_iff_right] at hl
        rw [List.cons_append, value_array (h.startsValue.append r), ihItems r h hl]
        rfl
      | emptyObject => rfl
      | object hnodup h =>
        rw [List.length_cons, Nat.add_le_add_iff_right] at hl
        obtain ⟨s, hs⟩ := h.eq_quote
        rw [hs] at hl h ⊢
        rw [List.cons_append, List.cons_append, value_object, ← List.cons_append, ihFields r h hl,
          Option.map_some]
        dsimp only
        rw [ofMembers_of_nodup hnodup]
    · cases h with
      | last h =>
        rw [List.length_append, List.length_singleton, Nat.add_le_add_iff_right] at hl
        rw [List.append_assoc, List.singleton_append,
          items_of_value (ihValue h hl (hbracket r))]
        rfl
      | @cons _ _ t vs ts h hs =>
        rw [List.length_append, List.length_cons] at hl
        rw [List.append_assoc, List.cons_append,
          items_of_value (ihValue h (by omega) (hcomma (ts ++ r)))]
        exact congrArg (Option.map _) (ihItems r hs (by omega))
    · cases h with
      | last h =>
        rw [List.length_append, List.length_singleton] at hl
        rw [List.append_assoc, List.singleton_append,
          members_of_field h (by omega) fun hv hl => ihValue hv hl (hbrace r)]
        rfl
      | @cons _ f t fs ts h hs =>
        rw [List.length_append, List.length_cons] at hl
        rw [List.append_assoc, List.cons_append,
          members_of_field h (by omega) fun hv hl => ihValue hv hl (hcomma (ts ++ r))]
        exact congrArg (Option.map _) (ihFields r hs (by omega))

/-- A text that spells a value is read as that value. -/
theorem read?_spelling {v : Json} {t : Text} (h : Spelling nestingLimit v t) :
    read? t = some v := by
  have hread := (spelling_read (stepsFor t)).1 h (by unfold stepsFor; omega) endsNumber_nil
  rw [List.append_nil] at hread
  unfold read?
  rw [hread]
  rfl

/-! ## The printer -/

/-- A value without floating-point numbers that opens at most so many levels. Its integers are in
the range of 64-bit integers, and the fields of an object have distinct names. -/
inductive Plain : Nat → Json → Prop
  | null {n : Nat} : Plain n .null
  | bool {n : Nat} (b : Bool) : Plain n (.bool b)
  | integer {n : Nat} {i : Int} : IsWord64 i → Plain n (.integer i)
  | string {n : Nat} (t : Text) : Plain n (.string t)
  | array {n : Nat} {vs : List Json} : (∀ v ∈ vs, Plain n v) → Plain (n + 1) (.array vs)
  | object {n : Nat} {fs : List (Text × Json)} : (fs.map Prod.fst).Nodup →
      (∀ f ∈ fs, Plain n f.2) → Plain (n + 1) (.object fs)

theorem renderItems_eq_map (vs : List Json) : renderItems vs = vs.map render := by
  induction vs with
  | nil => rfl
  | cons v vs ih => rw [renderItems, ih, List.map_cons]

theorem renderFields_eq_map (fs : List (Text × Json)) :
    renderFields fs = fs.map fun f => stringLiteral f.1 ++ ':' :: render f.2 := by
  induction fs with
  | nil => rfl
  | cons f fs ih =>
    obtain ⟨k, v⟩ := f
    rw [renderFields, ih, List.map_cons]

/-- Members spelled one by one, with commas between them. -/
theorem itemsSpelling_joinWith {α : Type} {n : Nat} {item : α → Json} {spell : α → Text}
    {ms : List α} (hne : ms ≠ []) (h : ∀ m ∈ ms, Spelling n (item m) (spell m)) :
    ItemsSpelling n (ms.map item) (Text.joinWith [','] (ms.map spell) ++ [']']) :=
  Text.joinWith_induction hne (fun m hm => .last (h m hm)) fun m hm _ _ => .cons (h m hm)

/-- An array spelled member by member. -/
theorem arraySpelling_joinWith {α : Type} {n : Nat} {item : α → Json} {spell : α → Text}
    {ms : List α} (h : ∀ m ∈ ms, Spelling n (item m) (spell m)) :
    Spelling (n + 1) (.array (ms.map item))
      ('[' :: (Text.joinWith [','] (ms.map spell) ++ [']'])) := by
  cases ms with
  | nil => exact .emptyArray
  | cons m ms => exact .array (itemsSpelling_joinWith (List.cons_ne_nil m ms) h)

/-- Fields spelled one by one, with commas between them. -/
theorem fieldsSpelling_joinWith {α : Type} {n : Nat} {field : α → Text × Json} {spell : α → Text}
    {ms : List α} (hne : ms ≠ []) (h : ∀ m ∈ ms, FieldSpelling n (field m) (spell m)) :
    FieldsSpelling n (ms.map field) (Text.joinWith [','] (ms.map spell) ++ ['\x7d']) :=
  Text.joinWith_induction hne (fun m hm => .last (h m hm)) fun m hm _ _ => .cons (h m hm)

/-- An object spelled field by field. -/
theorem objectSpelling_joinWith {α : Type} {n : Nat} {field : α → Text × Json}
    {spell : α → Text} {ms : List α} (hnodup : ((ms.map field).map Prod.fst).Nodup)
    (h : ∀ m ∈ ms, FieldSpelling n (field m) (spell m)) :
    Spelling (n + 1) (.object (ms.map field))
      ('\x7b' :: (Text.joinWith [','] (ms.map spell) ++ ['\x7d'])) := by
  cases ms with
  | nil => exact .emptyObject
  | cons m ms => exact .object hnodup (fieldsSpelling_joinWith (List.cons_ne_nil m ms) h)

/-- The compact text of a value spells it. -/
theorem Plain.spelling {n : Nat} {v : Json} (h : Plain n v) : Spelling n v (render v) := by
  induction h with
  | null =>
    rw [render]
    exact .null
  | bool b => exact .bool b
  | integer hi =>
    rw [render]
    exact .integer hi
  | string t =>
    rw [render, stringLiteral, List.cons_append]
    exact .string (stringSpelling_escape t)
  | @array n vs _ ih =>
    rw [render, renderItems_eq_map, List.cons_append]
    have hid : vs.map id = vs := List.map_id vs
    have hitem : ∀ v ∈ vs, Spelling n (id v) (render v) := ih
    have hspell := arraySpelling_joinWith hitem
    rwa [hid] at hspell
  | @object n fs hnodup _ ih =>
    rw [render, renderFields_eq_map, List.cons_append]
    have hfield : ∀ f ∈ fs, FieldSpelling n (id f) (stringLiteral f.1 ++ ':' :: render f.2) := by
      rintro ⟨k, v⟩ hf
      have hk := @FieldSpelling.mk n k _ [] v _ (stringSpelling_escape k) (by simp) (ih _ hf)
      simpa [stringLiteral] using hk
    have hid : fs.map id = fs := List.map_id fs
    have hspell := objectSpelling_joinWith (by rwa [hid]) hfield
    rwa [hid] at hspell

end StyleVars.Json
