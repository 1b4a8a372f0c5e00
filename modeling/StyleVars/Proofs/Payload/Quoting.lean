import StyleVars.Proofs.Payload.Template

/-
  Keys in the string of the synthetic rule, for any text as a key. Quoting stacks two escapes, that
  of JSON and that of the stylesheet string, and reading them in turn gives the key back. What is
  written in between is closed in itself: it holds no control character, and whatever could end the
  string or open an interpolation stands behind a backslash of its own (`quoteKey_closed`).
-/

namespace StyleVars.Payload

open Sass (IsLiteral)

theorem noControl_quoteKey (k : Text) : Json.NoControl (quoteKey k) := by
  intro c hc
  obtain ⟨d, hd, hc⟩ := List.mem_flatMap.mp hc
  have hliteral : 0x20 ≤ d.toNat := Json.noControl_stringLiteral k d hd
  split at hc
  · rcases List.mem_cons.mp hc with rfl | hc
    · decide
    · rwa [List.mem_singleton.mp hc]
  · rwa [List.mem_singleton.mp hc]

theorem quoteKey_ne_nil (k : Text) : quoteKey k ≠ [] := by
  unfold quoteKey Json.stringLiteral
  rw [List.cons_append, List.flatMap_cons]
  exact List.cons_ne_nil _ _

/-- Up to the closing quote the compiler reads a quoted key as one text, without interpolations. -/
theorem stringRest_quoteKey (k r : Text) :
    Sass.stringRest '\'' [] (quoteKey k ++ '\'' :: r) = some ([.text (quoteKey k)], r) := by
  have hclose : Sass.stringRest '\'' [] ('\'' :: r) = some ([], r) := rfl
  have hraw : (quoteKey k).foldr Sass.consText [] = [.text (quoteKey k)] :=
    Sass.foldr_consText (quoteKey_ne_nil k) fun t qs h => List.cons_ne_nil _ qs h.symm
  rw [Sass.stringRest_text (guarded_quoteKey k), hclose, ← hraw]
  rfl

/-- Any key comes back from its quoted form: the string's escapes denote the key's JSON literal, and
that is read as the key. The quoted form holds no control character. A quote or a number sign in it
stands behind a backslash that no other takes along; so the string does not end inside of it and no
interpolation opens there. -/
theorem quoteKey_closed (k : Text) :
    CssString.decode (quoteKey k) = Json.stringLiteral k ∧
    Json.read? (CssString.decode (quoteKey k)) = some (.string k) ∧
    (∀ c ∈ quoteKey k, 0x20 ≤ c.toNat) ∧
    (∀ before c after, quoteKey k = before ++ c :: after → c = '\'' ∨ c = '#' →
      ∃ front, before = front ++ ['\\'] ∧ Text.Guarded (fun d => d ≠ '\'' ∧ d ≠ '#') front) ∧
    ∀ r, Sass.stringRest '\'' [] (quoteKey k ++ '\'' :: r) = some ([.text (quoteKey k)], r) := by
  have hdecode : CssString.decode (quoteKey k) = Json.stringLiteral k := by
    have h := decode_quoteKey k []
    rwa [CssString.decode_of_notMem List.not_mem_nil, List.append_nil, List.append_nil] at h
  have hread : Json.read? (Json.stringLiteral k) = some (.string k) :=
    Json.read?_spelling (Json.Plain.string k).spelling
  refine ⟨hdecode, hdecode ▸ hread, noControl_quoteKey k, fun before c after hsplit hc => ?_,
    stringRest_quoteKey k⟩
  have hguarded := (guarded_quoteKey k).mono fun d (hd : IsLiteral '\'' d) => And.intro hd.1 hd.2.1
  rw [hsplit] at hguarded
  refine hguarded.exists_backslash ?_ fun hnone => ?_
  · rcases hc with rfl | rfl <;> decide
  · exact hc.elim hnone.1 hnone.2

/-- Quotes, an opening brace, a backslash before a hexadecimal digit and a control character, each
of them beside another. -/
theorem quoteKey_closed_mixed :
    let k := "'#\x7b\\1\x01\"".toList
    let before := "\"\\'\\".toList
    let after := "\x7b\\\\\\\\1\\\\u0001\\\\\"\"".toList
    quoteKey k = before ++ '#' :: after ∧
      (∃ front, before = front ++ ['\\'] ∧ Text.Guarded (fun d => d ≠ '\'' ∧ d ≠ '#') front) ∧
      Json.read? (CssString.decode (before ++ '#' :: after)) = some (.string k) ∧
      Sass.stringRest '\'' [] (before ++ '#' :: after ++ "'; \x7d".toList) =
        some ([.text (before ++ '#' :: after)], "; \x7d".toList) := by
  intro k before after
  have hsplit : quoteKey k = before ++ '#' :: after := by decide
  obtain ⟨-, hread, -, hescaped, hclosed⟩ := quoteKey_closed k
  rw [hsplit] at hread hclosed
  exact ⟨hsplit, hescaped before '#' after hsplit (.inr rfl), hread, hclosed _⟩

end StyleVars.Payload
