import StyleVars.Proofs.CssString.Encoding
import StyleVars.Proofs.Json.Control
import StyleVars.Proofs.Json.Spelling
import StyleVars.Proofs.Payload.Rule
import StyleVars.Proofs.Sass.StringParts

/-
  The synthetic rule's string, read as the compiler reads it. Its parts alternate: text that spells
  a key, and the interpolation of that key's field (`stringRest_objectOf`). `fill` puts a text in
  the place of every interpolation and decodes the text between them; filled with the texts of
  values, the string is an object with one field for each name (`fill_objectParts`).
-/

namespace StyleVars.Payload

open Sass (StringPart Crosses IsLiteral IsNeutral)
open Text (Guarded)
open Variable (IsToken Units key sigil)

/-! ## Parts -/

/-- The text in front of the interpolation of a field. -/
def keyText (lead : Char) (name : Text) : Text :=
  lead :: (quoteKey (key name) ++ ": ".toList)

/-- The two parts of a field. -/
def fieldParts (lead : Char) (name : Text) : List StringPart :=
  [.text (keyText lead name), .interpolation (fieldExpression name.tail name)]

/-- The parts of the object text. -/
def objectParts : List Text → List StringPart
  | [] => [.text ['\x7b', '\x7d']]
  | name :: names => fieldParts '\x7b' name ++ names.flatMap (fieldParts ',') ++ [.text ['\x7d']]

/-! ## Reading the parts -/

theorem needsBackslash_iff {c : Char} :
    needsBackslash c = true ↔ c = '\\' ∨ c = '\'' ∨ c = '#' := by
  simp [needsBackslash, or_assoc]

theorem isLiteral_of_noControl {c : Char} (hc : 0x20 ≤ c.toNat) (h : needsBackslash c = false) :
    c ≠ '\\' ∧ IsLiteral '\'' c := by
  have hn : ¬ (c = '\\' ∨ c = '\'' ∨ c = '#') := by
    rw [← needsBackslash_iff, h]
    decide
  rw [not_or, not_or] at hn
  refine ⟨hn.1, hn.2.1, hn.2.2, ?_⟩
  have hne : ∀ d : Char, d.toNat < 0x20 → c ≠ d := by
    rintro d hd rfl
    omega
  simp [Sass.isBreak, hne '\n' (by decide), hne '\r' (by decide), hne '\x0c' (by decide)]

/-- A key's spelling neither closes the string nor opens an interpolation. -/
theorem guarded_quoteKey (k : Text) : Guarded (IsLiteral '\'') (quoteKey k) := by
  refine Guarded.flatMap fun c hc => ?_
  cases h : needsBackslash c with
  | true => exact .escape .nil
  | false =>
    have hl := isLiteral_of_noControl (Json.noControl_stringLiteral k c hc) h
    exact .plain hl.1 hl.2 .nil

theorem guarded_keyText {lead : Char} (hlead : lead ≠ '\\' ∧ IsLiteral '\'' lead) (name : Text) :
    Guarded (IsLiteral '\'') (keyText lead name) :=
  .plain hlead.1 hlead.2 ((guarded_quoteKey _).append (.of_all (by decide)))

theorem isNeutral_of_plain {c : Char} (h : Variable.isPlainUnit c = true) : IsNeutral c :=
  ⟨Variable.plain_ne h (by decide), Variable.plain_ne h (by decide),
    Variable.plain_ne h (by decide), Variable.plain_ne h (by decide),
    Variable.plain_ne h (by decide)⟩

theorem fieldExpression_eq (body name : Text) :
    fieldExpression body name =
      "if(global-variable-exists(".toList ++ ('\'' :: (body ++ ['\'']) ++
        ("), json-encode(".toList ++ (name ++ ("), ".toList ++
          ('\'' :: ("null".toList ++ ['\'']) ++ [')']))))) := by
  have hleft : "if(global-variable-exists('".toList =
    "if(global-variable-exists(".toList ++ ['\''] := rfl
  have hmiddle : "'), json-encode(".toList = '\'' :: "), json-encode(".toList := rfl
  have hright : "), 'null')".toList =
    "), ".toList ++ '\'' :: ("null".toList ++ ['\'', ')']) := rfl
  unfold fieldExpression
  rw [hleft, hmiddle, hright]
  simp only [List.append_assoc, List.cons_append, List.nil_append]

/-- The expression of a field is the whole source of its interpolation: its strings close and
nothing in a name can be taken for a brace or a quote. -/
theorem crosses_fieldExpression (quote : Char) {us : Text} (h : Units us) :
    Crosses quote [.brace] (fieldExpression us (sigil :: us)) [.brace] := by
  have hbrace : Sass.IsOpen .brace := .inl rfl
  have hbody : Guarded IsNeutral us := h.guarded.mono fun _ => isNeutral_of_plain
  have hname : Guarded IsNeutral (sigil :: us) := .plain (by decide) (by decide) hbody
  have hcall : Crosses quote [.brace] "if(global-variable-exists(".toList [.brace] :=
    Sass.crosses_guarded hbrace [] (.of_all (by decide +kernel))
  have hencode : Crosses quote [.brace] "), json-encode(".toList [.brace] :=
    Sass.crosses_guarded hbrace [] (.of_all (by decide +kernel))
  have hcomma : Crosses quote [.brace] "), ".toList [.brace] :=
    Sass.crosses_guarded hbrace [] (.of_all (by decide +kernel))
  have hnull : Crosses quote [.brace] ('\'' :: ("null".toList ++ ['\''])) [.brace] :=
    Sass.crosses_string (.inr rfl) [] (.of_all (by decide +kernel))
  have hend : Crosses quote [.brace] [')'] [.brace] :=
    Sass.crosses_neutral hbrace [] (by decide) (by decide)
  rw [fieldExpression_eq]
  exact hcall.append ((Sass.crosses_string (.inr rfl) [] hbody).append
    (hencode.append ((Sass.crosses_guarded hbrace [] hname).append
      (hcomma.append (hnull.append hend)))))

/-- A field is read as its two parts. -/
theorem stringRest_field {lead : Char} (hlead : lead ≠ '\\' ∧ IsLiteral '\'' lead) {name : Text}
    (h : IsToken name) (r : Text) :
    Sass.stringRest '\'' [] (lead :: (fieldOf name ++ r)) =
      (Sass.stringRest '\'' [] r).map fun (ps, r) => (fieldParts lead name ++ ps, r) := by
  obtain ⟨us, -, hu, rfl⟩ := h
  have hsplit : lead :: (fieldOf (sigil :: us) ++ r) = keyText lead (sigil :: us) ++
      '#' :: '\x7b' :: (fieldExpression us (sigil :: us) ++ '\x7d' :: r) := by
    simp [fieldOf, keyText]
  rw [hsplit, Sass.stringRest_text (guarded_keyText hlead _),
    Sass.stringRest_interpolation (crosses_fieldExpression '\'' hu), Option.map_map]
  congr 1
  funext ⟨ps, r⟩
  have hne : keyText lead (sigil :: us) ≠ [] := List.cons_ne_nil _ _
  dsimp only [Function.comp_apply]
  rw [Sass.foldr_consText hne]
  · rfl
  · intro t qs he
    cases he

theorem isLiteral_comma : ',' ≠ '\\' ∧ IsLiteral '\'' ',' := by decide

theorem isLiteral_brace : '\x7b' ≠ '\\' ∧ IsLiteral '\'' '\x7b' := by decide

/-- The end of the object text, behind its last field. -/
theorem stringRest_close (r : Text) :
    Sass.stringRest '\'' [] ('\x7d' :: '\'' :: r) = some ([.text ['\x7d']], r) := rfl

theorem stringRest_fields {lead : Char} (hlead : lead ≠ '\\' ∧ IsLiteral '\'' lead) {name : Text}
    {names : List Text} (h : ∀ n ∈ name :: names, IsToken n) (r : Text) :
    Sass.stringRest '\'' []
        (lead :: (Text.joinWith [','] ((name :: names).map fieldOf) ++ '\x7d' :: '\'' :: r)) =
      some (fieldParts lead name ++ names.flatMap (fieldParts ',') ++ [.text ['\x7d']], r) := by
  have hname := h name List.mem_cons_self
  induction names generalizing lead name with
  | nil =>
    have hjoin : Text.joinWith [','] ([name].map fieldOf) = fieldOf name :=
      List.intercalate_singleton
    rw [hjoin, stringRest_field hlead hname, stringRest_close]
    rfl
  | cons next names ih =>
    have hrest : ∀ n ∈ next :: names, IsToken n := fun n hn => h n (List.mem_cons_of_mem name hn)
    have hjoin : Text.joinWith [','] ((name :: next :: names).map fieldOf) =
        fieldOf name ++ ',' :: Text.joinWith [','] ((next :: names).map fieldOf) := by
      simp [List.intercalate_cons_cons]
    rw [hjoin, List.append_assoc, List.cons_append, stringRest_field hlead hname,
      ih isLiteral_comma hrest (hrest next List.mem_cons_self)]
    simp [fieldParts]

/-- The object text of names that are tokens is read as its parts. -/
theorem stringRest_objectOf {names : List Text} (h : ∀ name ∈ names, IsToken name) (r : Text) :
    Sass.stringRest '\'' [] (objectOf names ++ '\'' :: r) = some (objectParts names, r) := by
  cases names with
  | nil => rfl
  | cons name names =>
    have hassoc : objectOf (name :: names) ++ '\'' :: r =
        '\x7b' :: (Text.joinWith [','] ((name :: names).map fieldOf) ++ '\x7d' :: '\'' :: r) := by
      simp [objectOf]
    rw [hassoc]
    exact stringRest_fields isLiteral_brace h r

/-! ## Filling the interpolations -/

/-- The text of a string whose interpolations yield the given texts, one for each. -/
def fill : List StringPart → List Text → Option Text
  | [], [] => some []
  | .text raw :: parts, texts => (fill parts texts).map (CssString.decode raw ++ ·)
  | .interpolation _ :: parts, text :: texts => (fill parts texts).map (text ++ ·)
  | _, _ => none

/-- The text of the field of a name whose interpolation yields the given text. -/
def filledField (name text : Text) : Text :=
  Json.stringLiteral (key name) ++ ':' :: ' ' :: text

theorem decode_quoteKey (k r : Text) :
    CssString.decode (quoteKey k ++ r) = Json.stringLiteral k ++ CssString.decode r := by
  unfold quoteKey
  induction Json.stringLiteral k with
  | nil => rfl
  | cons c t ih =>
    rw [List.flatMap_cons, List.append_assoc]
    cases h : needsBackslash c with
    | true =>
      have hc : isHexDigit c = false ∧ c ≠ '\n' := by
        rcases needsBackslash_iff.mp h with rfl | rfl | rfl
        · decide
        · decide
        · decide
      exact (CssString.decode_escape hc.1 hc.2 _).trans (congrArg (c :: ·) ih)
    | false =>
      have hc : c ≠ '\\' := by
        rintro rfl
        cases h
      exact (CssString.decode_cons hc _).trans (congrArg (c :: ·) ih)

/-- The text in front of an interpolation denotes the key's JSON literal. -/
theorem decode_keyText {lead : Char} (hlead : lead ≠ '\\') (name : Text) :
    CssString.decode (keyText lead name) =
      lead :: (Json.stringLiteral (key name) ++ ": ".toList) := by
  have hcolon : CssString.decode ": ".toList = ": ".toList :=
    CssString.decode_of_notMem (by decide)
  rw [keyText, CssString.decode_cons hlead, decode_quoteKey, hcolon]

theorem fill_fieldParts {lead : Char} (hlead : lead ≠ '\\') (name text : Text)
    (parts : List StringPart) (texts : List Text) :
    fill (fieldParts lead name ++ parts) (text :: texts) =
      (fill parts texts).map (lead :: filledField name text ++ ·) := by
  have hstep : fill (fieldParts lead name ++ parts) (text :: texts) =
      ((fill parts texts).map (text ++ ·)).map (CssString.decode (keyText lead name) ++ ·) := rfl
  rw [hstep, Option.map_map, decode_keyText hlead]
  congr 1
  funext s
  simp [filledField]

theorem fill_fields {lead : Char} (hlead : lead ≠ '\\') (text : Text → Text) (name : Text)
    (names : List Text) :
    fill (fieldParts lead name ++ names.flatMap (fieldParts ',') ++ [.text ['\x7d']])
        ((name :: names).map text) =
      some (lead :: Text.joinWith [','] ((name :: names).map fun n => filledField n (text n))
        ++ ['\x7d']) := by
  have hclose : CssString.decode ['\x7d'] = ['\x7d'] := CssString.decode_of_notMem (by decide)
  induction names generalizing lead name with
  | nil =>
    rw [List.map_singleton, List.flatMap_nil, List.append_nil, fill_fieldParts hlead]
    simp [fill, hclose]
  | cons next names ih =>
    have hnext := @ih ',' (by decide) next
    rw [List.map_cons, List.flatMap_cons, List.append_assoc, fill_fieldParts hlead, hnext]
    simp [List.intercalate_cons_cons]

/-- The object text with its interpolations filled is an object with one field for each name. -/
theorem fill_objectParts (text : Text → Text) (names : List Text) :
    fill (objectParts names) (names.map text) =
      some ('\x7b' :: Text.joinWith [','] (names.map fun n => filledField n (text n))
        ++ ['\x7d']) := by
  cases names with
  | nil =>
    have hempty : CssString.decode ['\x7b', '\x7d'] = ['\x7b', '\x7d'] :=
      CssString.decode_of_notMem (by decide)
    simp [objectParts, fill, hempty]
  | cons name names => exact fill_fields (by decide) text name names

end StyleVars.Payload
