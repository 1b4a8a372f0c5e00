import StyleVars.Proofs.Binary64.Fixed
import StyleVars.Proofs.Sass.JsonString

/-
  The JSON text of a stylesheet value. `toJson` says which JSON value a stylesheet value stands
  for, and `Encodable` for which values the text of the helper stylesheet can be read: texts without
  control characters other than the line feed, whole numbers of 64 bits or numbers with a unit, and
  lists and maps of such values, down to a number of levels. The text of such a value spells what
  the value stands for (`Encodable.spelling`), by induction over the value, one case for each kind;
  the reader takes it back (`read?_encode`).
-/

namespace StyleVars.Sass

open Json (FieldSpelling IsRaw IsWord64 Spelling)

/-! ## Numbers -/

/-- The text of a whole number is the numeral of the integer; a negative zero has no sign. -/
theorem Value.numberText_of_whole {x : Binary64} (hx : x.IsWhole) :
    numberText x = Text.ofInt x.truncate := by
  have hzero (n : Nat) (h : Text.ofNat n = ['0']) : n = 0 := by
    rw [← Json.numberOfDigits_ofNat n, h]
    rfl
  unfold numberText Binary64.truncate
  dsimp only
  rw [Binary64.fixed_of_whole hx]
  cases x.negative with
  | false =>
    rw [if_neg (by simp), if_neg (by simp)]
    rfl
  | true =>
    rw [if_pos rfl]
    cases x.whole with
    | zero => rfl
    | succ n =>
      have hdigits : Text.ofNat (n + 1) ≠ ['0'] := fun h => Nat.succ_ne_zero n (hzero (n + 1) h)
      rw [if_pos ⟨rfl, hdigits⟩]
      rfl

/-- The text of a number is made of digits, a point and a minus sign. -/
theorem Value.mem_numberText {x : Binary64} {c : Char} (hc : c ∈ numberText x) :
    c.isDigit = true ∨ c = '.' ∨ c = '-' := by
  have hfixed (h : c ∈ x.fixed decimalPlaces) : c.isDigit = true ∨ c = '.' ∨ c = '-' := by
    rcases Binary64.mem_fixed h with h | h
    · exact .inl h
    · exact .inr (.inl h)
  unfold numberText at hc
  dsimp only at hc
  split at hc
  · rcases List.mem_cons.mp hc with h | h
    · exact .inr (.inr h)
    · exact hfixed h
  · exact hfixed hc

namespace JsonEncode

theorem isRaw_numberText (x : Binary64) : IsRaw (Value.numberText x) := by
  intro c hc
  rcases Value.mem_numberText hc with h | rfl | rfl
  · exact Json.isRawChar_of_isDigit h
  · decide
  · decide

/-! ## What a value stands for -/

/-- The name a map key becomes. -/
def keyName : Value → Text
  | .string t _ => t
  | v => v.inspect

mutual

/-- The JSON value a stylesheet value stands for. -/
def toJson : Value → Json
  | .null => .null
  | .bool b => .bool b
  | .number x unit =>
    if unit.isEmpty then .integer x.truncate else .string (Value.inspect (.number x unit))
  | .string t _ => .string t
  | .color spelling => .string spelling
  | .list items _ _ => .array (toJsonItems items)
  | .map entries => .object (toJsonEntries entries)

/-- The JSON values of the members of a list. -/
def toJsonItems : List Value → List Json
  | [] => []
  | v :: vs => toJson v :: toJsonItems vs

/-- The fields the entries of a map stand for. -/
def toJsonEntries : List (Value × Value) → List (Text × Json)
  | [] => []
  | (k, v) :: es => (keyName k, toJson v) :: toJsonEntries es

end

/-- A value whose JSON text can be read, with at most so many levels of lists and maps. -/
inductive Encodable : Nat → Value → Prop
  | null {n : Nat} : Encodable n .null
  | bool {n : Nat} (b : Bool) : Encodable n (.bool b)
  | integer {n : Nat} {x : Binary64} : x.IsWhole → IsWord64 x.truncate → Encodable n (.number x [])
  | measure {n : Nat} (x : Binary64) {unit : Text} : unit ≠ [] → IsRaw unit →
      Encodable n (.number x unit)
  | string {n : Nat} {t : Text} (quoted : Bool) : IsClean t → Encodable n (.string t quoted)
  | color {n : Nat} {spelling : Text} : IsClean spelling → Encodable n (.color spelling)
  | list {n : Nat} {items : List Value} (separator : Separator) (bracketed : Bool) :
      (∀ v ∈ items, Encodable n v) → Encodable (n + 1) (.list items separator bracketed)
  | map {n : Nat} {entries : List (Value × Value)} : (∀ e ∈ entries, IsClean (keyName e.1)) →
      (entries.map fun e => keyName e.1).Nodup → (∀ e ∈ entries, Encodable n e.2) →
      Encodable (n + 1) (.map entries)

theorem Encodable.mono {n m : Nat} {v : Value} (h : Encodable n v) (hnm : n ≤ m) :
    Encodable m v := by
  induction h generalizing m with
  | null => exact .null
  | bool b => exact .bool b
  | integer hx hword => exact .integer hx hword
  | measure x hne hunit => exact .measure x hne hunit
  | string quoted ht => exact .string quoted ht
  | color ht => exact .color ht
  | list separator bracketed _ ih =>
    obtain ⟨m, rfl⟩ : ∃ k, m = k + 1 := ⟨m - 1, by omega⟩
    exact .list separator bracketed fun v hv => ih v hv (by omega)
  | map hkeys hnodup _ ih =>
    obtain ⟨m, rfl⟩ : ∃ k, m = k + 1 := ⟨m - 1, by omega⟩
    exact .map hkeys hnodup fun e he => ih e he (by omega)

/-! ## The text of a value -/

theorem encodeItems_eq_map (items : List Value) : encodeItems items = items.map encode := by
  induction items with
  | nil => rfl
  | cons v vs ih => rw [encodeItems, ih, List.map_cons]

theorem encodeEntries_eq_map (entries : List (Value × Value)) :
    encodeEntries entries = entries.map fun e => keyText e.1 ++ ':' :: encode e.2 := by
  induction entries with
  | nil => rfl
  | cons e es ih =>
    obtain ⟨k, v⟩ := e
    rw [encodeEntries, ih, List.map_cons]

theorem toJsonItems_eq_map (items : List Value) : toJsonItems items = items.map toJson := by
  induction items with
  | nil => rfl
  | cons v vs ih => rw [toJsonItems, ih, List.map_cons]

theorem toJsonEntries_eq_map (entries : List (Value × Value)) :
    toJsonEntries entries = entries.map fun e => (keyName e.1, toJson e.2) := by
  induction entries with
  | nil => rfl
  | cons e es ih =>
    obtain ⟨k, v⟩ := e
    rw [toJsonEntries, ih, List.map_cons]

theorem keyText_eq (k : Value) : keyText k = stringText (keyName k) := by
  cases k <;> rfl

theorem spelling_stringText {n : Nat} {t : Text} (h : IsClean t) :
    Spelling n (.string t) (stringText t) :=
  .string (stringSpelling_escapeString h)

/-- The text of an entry spells a field. -/
theorem fieldSpelling_entry {n : Nat} {k v : Value} (hk : IsClean (keyName k))
    (hv : Spelling n (toJson v) (encode v)) :
    FieldSpelling n (keyName k, toJson v) (keyText k ++ ':' :: encode v) := by
  have hfield := @FieldSpelling.mk n (keyName k) _ [] (toJson v) _
    (stringSpelling_escapeString hk) (by simp) hv
  rw [keyText_eq]
  simpa [stringText] using hfield

/-- The text of a value spells what the value stands for. -/
theorem Encodable.spelling {n : Nat} {v : Value} (h : Encodable n v) :
    Spelling n (toJson v) (encode v) := by
  induction h with
  | null => exact .null
  | bool b =>
    cases b with
    | false => exact .bool false
    | true => exact .bool true
  | @integer n x hx hword =>
    have hinspect : Value.inspect (.number x []) = Text.ofInt x.truncate := by
      rw [Value.inspect, List.append_nil, Value.numberText_of_whole hx]
    have hempty : (List.isEmpty ([] : Text)) = true := rfl
    rw [toJson, encode, if_pos hempty, if_pos hempty, hinspect]
    exact .integer hword
  | @measure n x unit hne hunit =>
    have hempty : ¬ unit.isEmpty = true := by simpa using hne
    have hraw : IsRaw (Value.inspect (.number x unit)) := by
      intro c hc
      rw [Value.inspect] at hc
      rcases List.mem_append.mp hc with hc | hc
      · exact isRaw_numberText x c hc
      · exact hunit c hc
    rw [toJson, encode, if_neg hempty, if_neg hempty, List.cons_append]
    exact .string (Json.stringSpelling_of_raw hraw)
  | string quoted ht =>
    rw [toJson, encode]
    exact spelling_stringText ht
  | color ht =>
    rw [toJson, encode, Value.inspect]
    exact spelling_stringText ht
  | @list n items separator bracketed _ ih =>
    rw [toJson, encode, toJsonItems_eq_map, encodeItems_eq_map, List.cons_append]
    exact Json.arraySpelling_joinWith ih
  | @map n entries hkeys hnodup _ ih =>
    rw [toJson, encode, toJsonEntries_eq_map, encodeEntries_eq_map, List.cons_append]
    have hnames : ((entries.map fun e => (keyName e.1, toJson e.2)).map Prod.fst).Nodup := by
      rw [List.map_map]
      exact hnodup
    exact Json.objectSpelling_joinWith hnames fun e he =>
      fieldSpelling_entry (hkeys e he) (ih e he)

/-- The text of a value with no more levels than the reader opens is JSON text, and it is read as
what the value stands for. -/
theorem read?_encode {n : Nat} (hn : n ≤ Json.nestingLimit) {v : Value} (h : Encodable n v) :
    Spelling n (toJson v) (encode v) ∧ Json.read? (encode v) = some (toJson v) :=
  ⟨h.spelling, Json.read?_spelling (h.mono hn).spelling⟩

/-- A map with an escaped key, the least integer of 64 bits, a number with a unit, and an empty
list and an empty map inside. -/
def sampleMap : Value :=
  .map [(.string "a\"\\\n".toList true,
      .list [.null, .number ⟨true, 0x10000000000000, 11⟩ [],
        .number ⟨false, 0x18000000000000, -52⟩ "px".toList] .space false),
    (.string "b".toList false, .list [.list [] .comma true, .map []] .comma false)]

theorem encodable_sampleMap : Encodable 3 sampleMap := by
  have hleast : Encodable 1 (.number ⟨true, 0x10000000000000, 11⟩ []) :=
    .integer (by decide) ⟨by decide, by decide⟩
  have hmeasure : Encodable 1 (.number ⟨false, 0x18000000000000, -52⟩ "px".toList) :=
    .measure _ (by decide) (by decide)
  have hempty : Encodable 1 (.list [] .comma true) :=
    .list .comma true fun _ hv => nomatch hv
  have hnone : Encodable 1 (.map []) :=
    .map (fun _ he => nomatch he) List.nodup_nil fun _ he => nomatch he
  have hfirst := Encodable.list .space false
    (List.forall_mem_cons.mpr ⟨.null, List.forall_mem_cons.mpr ⟨hleast,
      List.forall_mem_singleton.mpr hmeasure⟩⟩)
  have hsecond := Encodable.list .comma false
    (List.forall_mem_cons.mpr ⟨hempty, List.forall_mem_singleton.mpr hnone⟩)
  exact .map (by decide) (by decide)
    (List.forall_mem_cons.mpr ⟨hfirst, List.forall_mem_singleton.mpr hsecond⟩)

theorem read?_encode_sampleMap :
    3 ≤ Json.nestingLimit ∧ Encodable 3 sampleMap ∧
      encode sampleMap =
        "\x7b\"a\\\"\\\\\\n\":[null,-9223372036854775808,\"1.5px\"],\"b\":[[],\x7b\x7d]\x7d".toList ∧
      Json.read? (encode sampleMap) =
        some (.object [("a\"\\\n".toList,
            .array [.null, .integer (-9223372036854775808), .string "1.5px".toList]),
          ("b".toList, .array [.array [], .object []])]) := by
  have hn : 3 ≤ Json.nestingLimit := by decide
  exact ⟨hn, encodable_sampleMap, by decide +kernel, (read?_encode hn encodable_sampleMap).2⟩

end JsonEncode
end StyleVars.Sass
