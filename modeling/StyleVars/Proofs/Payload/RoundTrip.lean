import StyleVars.Payload.Extract
import StyleVars.Proofs.Marker.Declaration
import StyleVars.Proofs.Payload.Template
import StyleVars.Proofs.Variable.Names

/-
  Values through the whole pipeline. The names of scraped texts become the synthetic rule; the
  compiler puts the JSON text of a value in the place of every interpolation of the rule's string
  and writes the string behind the session's property; reading that output gives back the value of
  every name under the name's key, in order and without those that are `null`
  (`extract_filled_rule`).
-/

namespace StyleVars.Payload

open Marker (Layout someToken spaciousLayout)
open Variable (IsToken Names key)

/-- The synthetic rule up to the string of its declaration. -/
def ruleHead (token : Text) : Text :=
  "\n.".toList ++ token ++ '\x7b' :: Marker.property token ++ ":'".toList

theorem ruleOf_eq_append (token : Text) (names : List Text) :
    ruleOf token names = ruleHead token ++ (objectOf names ++ '\'' :: ";\x7d\n".toList) := by
  have hend : "';\x7d\n".toList = '\'' :: ";\x7d\n".toList := rfl
  unfold ruleOf ruleHead
  rw [hend, List.append_assoc]

/-- The values of names as an object. -/
def fieldsOf (v : Text → Json) (names : List Text) : VariableMap :=
  names.map fun name => (key name, v name)

/-- The text of the object with these values, as the rule's string yields it. -/
def payloadOf (v : Text → Json) (names : List Text) : Text :=
  '\x7b' :: Text.joinWith [','] (names.map fun name => filledField name (Json.render (v name)))
    ++ ['\x7d']

/-- The field of a name spells the name's key and its value. -/
theorem fieldSpelling_filledField {n : Nat} {v : Text → Json} {name : Text}
    (hv : Json.Plain n (v name)) :
    Json.FieldSpelling n (key name, v name) (filledField name (Json.render (v name))) := by
  have hkey := Json.stringSpelling_escape (key name)
  have hspell := @Json.FieldSpelling.mk n (key name) _ [' '] (v name) _ hkey
    (List.all_eq_true.mp (by decide)) hv.spelling
  simpa [filledField, Json.stringLiteral] using hspell

/-- The payload spells the object, one level above the values. -/
theorem spelling_payloadOf {n : Nat} {v : Text → Json} {names : List Text}
    (hkeys : (names.map key).Nodup) (hv : ∀ name ∈ names, Json.Plain n (v name)) :
    Json.Spelling (n + 1) (.object (fieldsOf v names)) (payloadOf v names) := by
  have hfield : ∀ name ∈ names, Json.FieldSpelling n (key name, v name)
      (filledField name (Json.render (v name))) :=
    fun name hname => fieldSpelling_filledField (hv name hname)
  have hnames : ((names.map fun name => (key name, v name)).map Prod.fst).Nodup := by
    rwa [List.map_map]
  exact Json.objectSpelling_joinWith hnames hfield

theorem noControl_payloadOf (v : Text → Json) (names : List Text) :
    Json.NoControl (payloadOf v names) := by
  refine (Json.noControl_cons (by decide) (Json.noControl_joinWith fun t ht => ?_)).append
    (by decide)
  obtain ⟨name, -, rfl⟩ := List.mem_map.mp ht
  have hvalue := Json.noControl_cons (c := ' ') (by decide) (Json.noControl_render (v name))
  exact (Json.noControl_stringLiteral _).append (Json.noControl_cons (by decide) hvalue)

theorem read_payloadOf {v : Text → Json} {names : List Text} (hkeys : (names.map key).Nodup)
    (hv : ∀ name ∈ names, Json.Plain 126 (v name)) :
    read (payloadOf v names) = .ok (purgeNulls (fieldsOf v names)) := by
  unfold read
  rw [Json.read?_spelling (spelling_payloadOf hkeys hv)]

/-- What the rule of scraped names yields, with a value for each name, is read back as these
values. -/
theorem extract_filled_rule {token : Text} (ht : isSessionToken token = true)
    (sources : List Text) {v : Text → Json}
    (hv : ∀ name ∈ (Names.ofSources sources).toList, Json.Plain 126 (v name)) (l : Layout)
    {pre : Text} (hpre : ¬ Marker.property token <:+: pre) (post : Text) :
    ∃ literal parts payload,
      rule? token (Names.ofSources sources).toList = some (ruleHead token ++ literal) ∧
      Sass.stringRest '\'' [] literal = some (parts, ";\x7d\n".toList) ∧
      fill parts ((Names.ofSources sources).toList.map fun name => Json.render (v name)) =
        some payload ∧
      extract token (pre ++ (l.write (Marker.property token) (CssString.escape l.quote payload)
        ++ post)) =
        .ok (((Names.ofSources sources).toList.map fun name => (key name, v name)).filter
          fun field => !field.2.isNull) := by
  have htokens : ∀ name ∈ (Names.ofSources sources).toList, IsToken name :=
    fun _ => Names.isToken_of_mem_ofSources
  have hkeys := Names.nodup_keys_ofSources sources
  generalize (Names.ofSources sources).toList = names at hv htokens hkeys ⊢
  refine ⟨objectOf names ++ '\'' :: ";\x7d\n".toList, objectParts names, payloadOf v names,
    ?_, stringRest_objectOf htokens _, fill_objectParts _ names, ?_⟩
  · rw [rule?_eq htokens, ruleOf_eq_append]
  · -- Only a NUL would not survive the escapes, and JSON texts hold no control character.
    have h0 : '\x00' ∉ payloadOf v names :=
      fun h => absurd (noControl_payloadOf v names '\x00' h) (by decide)
    have hescape := CssString.encoding_escape l.quote_not_hexDigit l.quote_not_blank.2
      (payloadOf v names)
    have hguarded := hescape.guarded l.quote_not_hexDigit l.quote_not_blank.1
    unfold extract find
    rw [Marker.find?_write ht l hpre hguarded]
    dsimp only
    rw [CssString.decode_encoding hescape h0]
    exact read_payloadOf hkeys hv

/-- Two stylesheets; the first holds a name with an escape. -/
def sampleSources : List Text := ["$a\\:b: 1; .x \x7b color: $c \x7d".toList, "$d $c".toList]

theorem names_sampleSources :
    (Names.ofSources sampleSources).toList =
      ["$a\\:b".toList, "$c".toList, "$d".toList] := by
  have hfirst : Variable.tokens "$a\\:b: 1; .x \x7b color: $c \x7d".toList =
      ["$a\\:b".toList, "$c".toList] := by
    have ha : Variable.unitRun "a\\:b: 1; .x \x7b color: $c \x7d".toList =
        ("a\\:b".toList, ": 1; .x \x7b color: $c \x7d".toList) := by decide
    have hc : Variable.unitRun "c \x7d".toList = ("c".toList, " \x7d".toList) := by decide
    calc Variable.tokens "$a\\:b: 1; .x \x7b color: $c \x7d".toList
        = "$a\\:b".toList :: Variable.tokens (": 1; .x \x7b color: ".toList ++ "$c \x7d".toList) :=
          Variable.tokens_of_unitRun (by decide) ha
      _ = "$a\\:b".toList :: Variable.tokens "$c \x7d".toList := by
          rw [Variable.tokens_append_of_notMem (by decide)]
      _ = ["$a\\:b".toList, "$c".toList] :=
          congrArg _ ((Variable.tokens_of_unitRun (by decide) hc).trans
            (congrArg _ (Variable.tokens_of_notMem (by decide))))
  have hsecond : Variable.tokens "$d $c".toList = ["$d".toList, "$c".toList] := by
    have hd : Variable.unitRun "d $c".toList = ("d".toList, " $c".toList) := by decide
    have hc : Variable.unitRun "c".toList = ("c".toList, []) := by decide
    calc Variable.tokens "$d $c".toList
        = "$d".toList :: Variable.tokens (" ".toList ++ "$c".toList) :=
          Variable.tokens_of_unitRun (by decide) hd
      _ = "$d".toList :: Variable.tokens "$c".toList := by
          rw [Variable.tokens_append_of_notMem (by decide)]
      _ = ["$d".toList, "$c".toList] :=
          congrArg _ ((Variable.tokens_of_unitRun (by decide) hc).trans
            (congrArg _ (Variable.tokens_of_notMem (by decide))))
  rw [Names.toList_ofSources, sampleSources, List.flatMap_cons, List.flatMap_cons,
    List.flatMap_nil, hfirst, hsecond]
  decide

/-- A value for every name: nothing for one of them, nested values for another. -/
def sampleValue (name : Text) : Json :=
  if name = "$c".toList then .null
  else if name = "$d".toList then .object [([], .array [.integer (-1), .bool true])]
  else .string ['\'', '\\', '"', '\x00']

theorem plain_sampleValue (name : Text) : Json.Plain 126 (sampleValue name) := by
  have hword : Json.IsWord64 (-1) := by unfold Json.IsWord64; omega
  have hitems : ∀ v ∈ [Json.integer (-1), .bool true], Json.Plain 124 v := by
    intro v hv
    rcases List.mem_pair.mp hv with rfl | rfl
    · exact .integer hword
    · exact .bool true
  unfold sampleValue
  split_ifs
  · exact .null
  · refine .object (List.nodup_singleton _) fun field hfield => ?_
    obtain rfl := List.mem_singleton.mp hfield
    exact .array hitems
  · exact .string _

/-- Names with an escape, values with quotes, backslashes and a character that only a number can
spell, in a layout with white space wherever it may stand. -/
theorem extract_filled_rule_sample :
    isSessionToken someToken = true ∧
      (Names.ofSources sampleSources).toList = ["$a\\:b".toList, "$c".toList, "$d".toList] ∧
      (∀ name ∈ (Names.ofSources sampleSources).toList, Json.Plain 126 (sampleValue name)) ∧
      ¬ Marker.property someToken <:+: "json-sass-vars-0:'".toList ∧
      ∃ literal parts payload,
        rule? someToken (Names.ofSources sampleSources).toList =
          some (ruleHead someToken ++ literal) ∧
        Sass.stringRest '\'' [] literal = some (parts, ";\x7d\n".toList) ∧
        fill parts ((Names.ofSources sampleSources).toList.map fun name =>
          Json.render (sampleValue name)) = some payload ∧
        extract someToken ("json-sass-vars-0:'".toList ++
          (spaciousLayout.write (Marker.property someToken)
            (CssString.escape spaciousLayout.quote payload) ++ ['\n'])) =
          .ok (((Names.ofSources sampleSources).toList.map fun name =>
            (key name, sampleValue name)).filter fun field => !field.2.isNull) := by
  have ht : isSessionToken someToken = true := by decide
  have hv : ∀ name ∈ (Names.ofSources sampleSources).toList, Json.Plain 126 (sampleValue name) :=
    fun name _ => plain_sampleValue name
  have hpre : ¬ Marker.property someToken <:+: "json-sass-vars-0:'".toList :=
    fun h => absurd h.length_le (by decide)
  exact ⟨ht, names_sampleSources, hv, hpre,
    extract_filled_rule ht sampleSources hv spaciousLayout hpre ['\n']⟩

end StyleVars.Payload
