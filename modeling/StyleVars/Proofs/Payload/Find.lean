import StyleVars.Payload.Extract
import StyleVars.Proofs.CssString.Encoding
import StyleVars.Proofs.Marker.Search

/-
  The payload a session finds. It is the string of the first complete declaration of the session's
  property, decoded, and nothing else in the text counts (`find_first_complete`). The writer of a
  declaration chooses its layout and an encoding of the payload, character by character; the reader
  gets the same payload from all of them (`find_write_encoding`).
-/

namespace StyleVars.Payload

open Marker (DeclaredAt FirstDeclared Layout property someToken spaciousLayout)
open CssString (Encoding CharEncoding)

/-! ## The first complete declaration -/

section First

variable {token output raw : Text}

theorem find_of_firstDeclared (h : FirstDeclared (property token) output raw) :
    find token output = .ok (CssString.decode raw) := by
  unfold find
  rw [Marker.find?_eq_some.mpr h]

theorem find_of_not_declared (h : ∀ i raw, ¬ DeclaredAt (property token) output i raw) :
    find token output = .error (.extractionFailed (.markerMissing token) none) := by
  unfold find
  rw [Marker.find?_eq_none.mpr h]

/-- A payload is found exactly if a complete declaration of the session's property stands somewhere
in the text, and it is the decoded string of the first one. The text at a position is a declaration
in one way only, and what stands in front of the first one has no influence: truncated declarations,
strings left open and properties of other sessions, whatever characters the token is made of. -/
theorem find_first_complete (token output : Text) :
    ((∃ payload, find token output = .ok payload) ↔
      ∃ i raw, DeclaredAt (property token) output i raw) ∧
    (∀ payload, find token output = .ok payload ↔
      ∃ i raw, DeclaredAt (property token) output i raw ∧
        (∀ j < i, ∀ raw', ¬ DeclaredAt (property token) output j raw') ∧
        payload = CssString.decode raw) ∧
    ((∀ i raw, ¬ DeclaredAt (property token) output i raw) →
      find token output = .error (.extractionFailed (.markerMissing token) none)) ∧
    (∀ i raw raw', DeclaredAt (property token) output i raw →
      DeclaredAt (property token) output i raw' → raw = raw') ∧
    ∀ pre rest, output = pre ++ rest →
      (∀ i < pre.length, ∀ raw, ¬ DeclaredAt (property token) output i raw) →
      find token output = find token rest := by
  have hvalue (payload : Text) : find token output = .ok payload ↔
      ∃ i raw, DeclaredAt (property token) output i raw ∧
        (∀ j < i, ∀ raw', ¬ DeclaredAt (property token) output j raw') ∧
        payload = CssString.decode raw := by
    constructor
    · intro h
      cases hfind : Marker.find? (property token) output with
      | none =>
        rw [find_of_not_declared (Marker.find?_eq_none.mp hfind)] at h
        cases h
      | some raw =>
        have hfirst := Marker.find?_eq_some.mp hfind
        rw [find_of_firstDeclared hfirst] at h
        obtain ⟨i, hi, hbefore⟩ := hfirst
        exact ⟨i, raw, hi, hbefore, (Except.ok.inj h).symm⟩
    · rintro ⟨i, raw, hi, hbefore, rfl⟩
      exact find_of_firstDeclared ⟨i, hi, hbefore⟩
  refine ⟨⟨?_, ?_⟩, hvalue, find_of_not_declared, fun i raw raw' => Marker.Declares.unique, ?_⟩
  · rintro ⟨payload, h⟩
    obtain ⟨i, raw, hi, -, -⟩ := (hvalue payload).mp h
    exact ⟨i, raw, hi⟩
  · rintro ⟨i, raw, hi⟩
    cases hfind : Marker.find? (property token) output with
    | none => exact absurd hi (Marker.find?_eq_none.mp hfind i raw)
    | some first => exact ⟨_, find_of_firstDeclared (Marker.find?_eq_some.mp hfind)⟩
  · rintro pre rest rfl hpre
    unfold find
    rw [Marker.find?_append_of_not_declaredAt hpre]

/-- A token with a dot: a property that a wild card would match, one without a string and one whose
string is not closed by its own quote stand in front of the declaration, and the last two hold its
beginning. -/
theorem find_first_complete_broken :
    let broken := "json-axb-content:'no';json-a.b-content:json-a.b-content:\"".toList
    let rest := "json-a.b-content : 'yes' \x7d".toList
    (∀ i < broken.length, ∀ raw, ¬ DeclaredAt (property "a.b".toList) (broken ++ rest) i raw) ∧
      find "a.b".toList (broken ++ rest) = find "a.b".toList rest := by
  intro broken rest
  have hnone : ∀ i < broken.length,
      Marker.declaration? (property "a.b".toList) ((broken ++ rest).drop i) = none := by decide
  have hbroken : ∀ i < broken.length, ∀ raw,
      ¬ DeclaredAt (property "a.b".toList) (broken ++ rest) i raw := by
    intro i hi raw hraw
    have hsome := Marker.declaration?_eq_some.mpr hraw
    rw [hnone i hi] at hsome
    cases hsome
  obtain ⟨-, -, -, -, hskip⟩ := find_first_complete "a.b".toList (broken ++ rest)
  exact ⟨hbroken, hskip broken rest rfl hbroken⟩

end First

/-! ## Every way to write it -/

/-- Whatever stands before the declaration (but its property) and after it, however it is laid out
and however its payload is encoded, the payload found is the payload declared. -/
theorem find_write_encoding {token : Text} (ht : isSessionToken token = true) (l : Layout)
    {pre payload encoded : Text} (hpre : ¬ Marker.property token <:+: pre)
    (h0 : '\x00' ∉ payload) (he : Encoding l.quote payload encoded) (post : Text) :
    find token (pre ++ (l.write (Marker.property token) encoded ++ post)) = .ok payload := by
  have hg := he.guarded l.quote_not_hexDigit l.quote_not_blank.1
  unfold find
  rw [Marker.find?_write ht l hpre hg]
  exact congrArg Except.ok (CssString.decode_encoding he h0)

/-- A quote behind a backslash, a line feed by number with a digit after it, a backslash, and a
character outside ASCII; a truncated declaration stands in front. -/
theorem find_write_encoding_mixed :
    isSessionToken someToken = true ∧
      ¬ Marker.property someToken <:+: "json-sass-vars-0:'".toList ∧
      '\x00' ∉ ['\'', '\n', '1', '\\', 'é'] ∧
      Encoding '\'' ['\'', '\n', '1', '\\', 'é'] "\\'\\00000a 1\\\\é".toList ∧
      find someToken ("json-sass-vars-0:'".toList ++
        (spaciousLayout.write (Marker.property someToken) "\\'\\00000a 1\\\\é".toList ++
          "\x7d \\'".toList)) = .ok ['\'', '\n', '1', '\\', 'é'] := by
  have ht : isSessionToken someToken = true := by decide
  have hpre : ¬ Marker.property someToken <:+: "json-sass-vars-0:'".toList :=
    fun h => absurd h.length_le (by decide)
  have h0 : '\x00' ∉ ['\'', '\n', '1', '\\', 'é'] := by decide
  have he : Encoding '\'' ['\'', '\n', '1', '\\', 'é'] "\\'\\00000a 1\\\\é".toList := by
    have quote : CharEncoding '\'' '\'' ['\\', '\''] := .escaped (by decide) (by decide)
    have lineFeed : CharEncoding '\'' '\n' ('\\' :: ("00000a".toList ++ [' '])) :=
      .numbered (List.all_eq_true.mp (by decide)) (by decide) (by decide) (by decide)
    have digit : CharEncoding '\'' '1' ['1'] := .verbatim (by decide) (by decide)
    have backslash : CharEncoding '\'' '\\' ['\\', '\\'] := .escaped (by decide) (by decide)
    have letter : CharEncoding '\'' 'é' ['é'] := .verbatim (by decide) (by decide)
    exact .cons quote (.cons lineFeed (.cons digit (.cons backslash (.cons letter .nil))))
  exact ⟨ht, hpre, h0, he, find_write_encoding ht spaciousLayout hpre h0 he _⟩

end StyleVars.Payload
