import StyleVars.Proofs.Json.Context
import StyleVars.Proofs.Payload.RoundTrip

/-
  No two names share a key. A token is read back from its key, so keys of scraped names are as
  different as the names; and the payload has exactly these keys, one member for each name, because
  the literal of a key in the rule is read back as the key (`objectMembers?_filled`). So no member
  of a payload hides another one, whatever the values are (`keys_distinct`).
-/

namespace StyleVars.Payload

open Marker (someToken)
open Variable (Names key ofKey)

/-- The object with one field for each name lists the values under the names' keys, if its
interpolations yield texts of the values, in whatever spelling. -/
theorem objectMembers?_filled {w : Text → Text} {v : Text → Json} {names : List Text}
    (hw : ∀ name ∈ names, Json.readWithin? (Json.nestingLimit - 1) (w name) = some (v name)) :
    Json.objectMembers? ('\x7b' :: Text.joinWith [','] (names.map fun n => filledField n (w n))
      ++ ['\x7d']) = some (fieldsOf v names) :=
  Json.objectMembers?_joinWith hw

/-- Different tokens of scraped texts have different keys, none of them empty, and each token is
read back from its key. So the payload of scraped names, whatever the values are and whatever texts
they have, lists as many members as there are names and all of them under different keys, and none
is lost when it is read; and the list of the names in one text is as long and as distinct. -/
theorem keys_distinct (token : Text) (sources : List Text) {w : Text → Text} {v : Text → Json}
    (hw : ∀ name ∈ (Names.ofSources sources).toList,
      Json.readWithin? (Json.nestingLimit - 1) (w name) = some (v name)) :
    let names := (Names.ofSources sources).toList
    let fields := fieldsOf v names
    (∀ m ∈ names, key m ≠ [] ∧ ofKey (key m) = m ∧
      ∀ others : List Text, ∀ n ∈ (Names.ofSources others).toList, key m = key n → m = n) ∧
    (∃ literal parts payload,
      rule? token names = some (ruleHead token ++ literal) ∧
      Sass.stringRest '\'' [] literal = some (parts, ";\x7d\n".toList) ∧
      fill parts (names.map w) = some payload ∧
      Json.objectMembers? payload = some fields ∧
      Json.read? payload = some (.object fields)) ∧
    (fields.map Prod.fst).Nodup ∧ fields.length = (Names.ofSources sources).size ∧
    (Names.ofSources sources).keys.Nodup ∧
    (Names.ofSources sources).keys.length = (Names.ofSources sources).size ∧
    ∀ source : Text, (Variable.scan source).Nodup ∧
      (Variable.scan source).length = (Names.empty.scrape source).2.size := by
  intro names fields
  have htokens : ∀ {sources : List Text}, ∀ name ∈ (Names.ofSources sources).toList,
      Variable.IsToken name := fun _ => Names.isToken_of_mem_ofSources
  have hmembers := objectMembers?_filled hw
  have hnodup : (fields.map Prod.fst).Nodup := by
    have hkeys : fields.map Prod.fst = names.map key := List.map_map
    rw [hkeys]
    exact Names.nodup_keys_ofSources sources
  refine ⟨fun m hm => ⟨Variable.key_ne_nil (htokens m hm), Variable.ofKey_key (htokens m hm),
    fun others n hn => Variable.key_inj (htokens m hm) (htokens n hn)⟩, ?_, hnodup, ?_,
    Names.nodup_keys_ofSources sources, Names.length_keys _,
    fun source => ⟨Names.nodup_keys_ofSources [source], Names.length_keys _⟩⟩
  · refine ⟨objectOf names ++ '\'' :: ";\x7d\n".toList, objectParts names, _, ?_,
      stringRest_objectOf htokens _, fill_objectParts w names, hmembers, ?_⟩
    · rw [rule?_eq htokens, ruleOf_eq_append]
    · exact Json.read?_eq_object.mpr
        ⟨fields, hmembers, Json.merged_iff.mpr (Json.ofMembers_of_nodup hnodup)⟩
  · have hlength : fields.length = names.length := List.length_map _
    rw [hlength, Names.length_toList]

/-- A text of a value for every name: blanks around a number with a fraction, an exponent in an
object, characters by their numbers. -/
def sampleText (name : Text) : Text :=
  if name = "$c".toList then " 1.5\n".toList
  else if name = "$d".toList then "[null, \x7b\"\\u0024\": -2e1\x7d]".toList
  else "\"'\\\\\\\"\\ud83d\\ude00\"".toList

/-- The value of that text. -/
def spelledValue (name : Text) : Json :=
  (Json.readWithin? (Json.nestingLimit - 1) (sampleText name)).getD .null

theorem readWithin?_sampleText (name : Text) :
    Json.readWithin? (Json.nestingLimit - 1) (sampleText name) = some (spelledValue name) := by
  have hsome : (Json.readWithin? (Json.nestingLimit - 1) (sampleText name)).isSome = true := by
    unfold sampleText
    split_ifs
    · decide +kernel
    · decide +kernel
    · decide +kernel
  obtain ⟨v, hv⟩ := Option.isSome_iff_exists.mp hsome
  unfold spelledValue
  rw [hv]
  rfl

/-- Names with an escape, and values that are not spelled as they are printed. -/
theorem keys_distinct_sample :
    (∀ name ∈ (Names.ofSources sampleSources).toList,
      Json.readWithin? (Json.nestingLimit - 1) (sampleText name) = some (spelledValue name)) ∧
      "$a\\:b".toList ∈ (Names.ofSources sampleSources).toList ∧
      ofKey "a:b".toList = "$a\\:b".toList ∧
      (∃ literal parts payload,
        rule? someToken (Names.ofSources sampleSources).toList =
          some (ruleHead someToken ++ literal) ∧
        Sass.stringRest '\'' [] literal = some (parts, ";\x7d\n".toList) ∧
        fill parts ((Names.ofSources sampleSources).toList.map sampleText) = some payload ∧
        Json.objectMembers? payload =
          some (fieldsOf spelledValue (Names.ofSources sampleSources).toList) ∧
        Json.read? payload =
          some (.object (fieldsOf spelledValue (Names.ofSources sampleSources).toList))) ∧
      (fieldsOf spelledValue (Names.ofSources sampleSources).toList).length = 3 ∧
      (Names.ofSources sampleSources).keys.Nodup := by
  have hw : ∀ name ∈ (Names.ofSources sampleSources).toList,
      Json.readWithin? (Json.nestingLimit - 1) (sampleText name) = some (spelledValue name) :=
    fun name _ => readWithin?_sampleText name
  have hmem : "$a\\:b".toList ∈ (Names.ofSources sampleSources).toList := by
    rw [names_sampleSources]
    exact List.mem_cons_self
  have hsize : (Names.ofSources sampleSources).size = 3 := by
    rw [← Names.length_toList, names_sampleSources]
    rfl
  have hkey : key "$a\\:b".toList = "a:b".toList := by decide
  obtain ⟨hnames, hpayload, -, hlength, hkeys, -, -⟩ := keys_distinct someToken sampleSources hw
  exact ⟨hw, hmem, hkey ▸ (hnames _ hmem).2.1, hpayload, hlength.trans hsize, hkeys⟩

end StyleVars.Payload
