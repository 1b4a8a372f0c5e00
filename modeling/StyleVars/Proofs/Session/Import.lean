import StyleVars.Proofs.CssString.Encoding
import StyleVars.Proofs.Path.Directory
import StyleVars.Session

/-
  The import of the entry point. Its path is put between quotes with a backslash before every quote
  and a separator in the place of every backslash; so nothing closes the string early, and decoding
  it gives the path with separators for backslashes (`decode_quoteImport`). A backslash may be part
  of a name, and a path without it has other names. So the compiler is asked for the entry point
  exactly if there is no backslash in its path (`import_entry_iff`).
-/

namespace StyleVars.Session

/-! ## Separators for backslashes -/

/-- The text with a separator in the place of every backslash. -/
def separated (t : Text) : Text := t.map fun c => if c = '\\' then '/' else c

variable {t : Text}

theorem separated_cons (c : Char) (t : Text) :
    separated (c :: t) = (if c = '\\' then '/' else c) :: separated t := rfl

theorem backslash_notMem_separated (t : Text) : '\\' ∉ separated t := by
  intro h
  obtain ⟨c, -, hc⟩ := List.mem_map.mp h
  split at hc
  · cases hc
  next hne => exact hne hc

theorem separated_of_notMem (h : '\\' ∉ t) : separated t = t := by
  induction t with
  | nil => rfl
  | cons c t ih =>
    rw [List.mem_cons, not_or] at h
    rw [separated_cons, if_neg (Ne.symm h.1), ih h.2]

/-- A path with a backslash in it has another name than the same path without it. -/
theorem same_separated (p : Path) :
    (Path.mk (separated p.text)).same p = true ↔ '\\' ∉ p.text := by
  constructor
  · intro h hbackslash
    have hname := (Path.mem_text_iff (by decide) (by decide)).mp hbackslash
    rw [← Path.same_iff.mp h] at hname
    exact backslash_notMem_separated p.text
      ((Path.mem_text_iff (p := ⟨separated p.text⟩) (by decide) (by decide)).mpr hname)
  · intro h
    rw [separated_of_notMem h]
    exact Path.same_refl p

/-! ## Quoting -/

/-- No quote in the import closes its string. -/
theorem guarded_quoteImport (p : Path) : Text.Guarded (· ≠ '"') (quoteImport p) := by
  refine Text.Guarded.flatMap fun c _ => ?_
  by_cases hbackslash : c = '\\'
  · rw [if_pos hbackslash]
    exact .of_all (by decide)
  rw [if_neg hbackslash]
  by_cases hquote : c = '"'
  · rw [if_pos hquote]
    exact .escape .nil
  · rw [if_neg hquote]
    exact .plain hbackslash hquote .nil

/-- The string denotes the path with separators for backslashes. -/
theorem decode_quoteImport (p : Path) : CssString.decode (quoteImport p) = separated p.text := by
  obtain ⟨t⟩ := p
  induction t with
  | nil => exact CssString.decode_of_notMem List.not_mem_nil
  | cons c t ih =>
    have hcons : quoteImport ⟨c :: t⟩ =
        (if c = '\\' then ['/'] else if c = '"' then ['\\', '"'] else [c]) ++ quoteImport ⟨t⟩ := rfl
    rw [hcons, separated_cons, ← ih]
    by_cases hbackslash : c = '\\'
    · rw [if_pos hbackslash, if_pos hbackslash, List.singleton_append,
        CssString.decode_cons (by decide)]
    rw [if_neg hbackslash, if_neg hbackslash]
    by_cases hquote : c = '"'
    · subst hquote
      exact CssString.decode_escape (by decide) (by decide) _
    · rw [if_neg hquote, List.singleton_append, CssString.decode_cons hbackslash]

/-! ## The first directive -/

/-- The program starts with the import of one string, which holds no quote that would close it. The
string denotes the normal path of the entry point from the root, but with separators for
backslashes; so it denotes that path exactly if there is no backslash in it, and then only does it
name the same file. -/
theorem import_entry_iff (token : Text) (options : Options) (workingDirectory entry : Path) :
    let place := entry.absolute workingDirectory
    let quoted := quoteImport place
    let asked := CssString.decode quoted
    (∃ rest, (request token options place).source =
      "@import \"".toList ++ quoted ++ "\";\n".toList ++ rest) ∧
    Text.Guarded (· ≠ '"') quoted ∧
    asked = separated place.text ∧
    (asked = place.text ↔ '\\' ∉ place.text) ∧
    ((Path.mk asked).same place = true ↔ '\\' ∉ place.text) := by
  intro place quoted asked
  have hasked : asked = separated place.text := decode_quoteImport place
  refine ⟨⟨importLine options.helperImport ++ importLine token, ?_⟩, guarded_quoteImport place,
    hasked, ⟨fun h => ?_, fun h => ?_⟩, ?_⟩
  · exact List.append_assoc _ _ _
  · rw [← h, hasked]
    exact backslash_notMem_separated place.text
  · rw [hasked, separated_of_notMem h]
  · rw [hasked]
    exact same_separated place

/-- A file with a backslash in its name and a file in a directory are asked for alike. -/
theorem import_entry_backslash :
    let place := (Path.ofString "a\\b.scss").absolute (.ofString "/styles")
    let other := (Path.ofString "a/b.scss").absolute (.ofString "/styles")
    place.text = "/styles/a\\b.scss".toList ∧
      CssString.decode (quoteImport place) = "/styles/a/b.scss".toList ∧
      CssString.decode (quoteImport place) ≠ place.text ∧
      quoteImport place = quoteImport other := by
  intro place other
  have hplace : CssString.decode (quoteImport place) = "/styles/a/b.scss".toList := by
    rw [decode_quoteImport]
    decide
  refine ⟨by decide, hplace, ?_, by decide⟩
  rw [hplace]
  decide

end StyleVars.Session
