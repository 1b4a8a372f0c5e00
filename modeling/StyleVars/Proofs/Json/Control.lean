import Mathlib.Data.List.DropRight
import StyleVars.Proofs.Json.Literal
import StyleVars.Proofs.Text.Split

/-
  Control characters in JSON texts. String literals escape them, numerals have none, and the compact
  text of a value puts nothing between these but brackets, commas and colons: so no compact text
  holds a control character, whatever is in the value's strings (`noControl_render`). In particular
  it stays on one line.
-/

namespace StyleVars.Json

/-! ## Texts without control characters -/

/-- A text without control characters. -/
def NoControl (t : Text) : Prop := ∀ c ∈ t, 0x20 ≤ c.toNat

instance (t : Text) : Decidable (NoControl t) :=
  List.decidableBAll (fun c : Char => 0x20 ≤ c.toNat) t

theorem NoControl.append {s t : Text} (hs : NoControl s) (ht : NoControl t) :
    NoControl (s ++ t) := by
  intro c hc
  rcases List.mem_append.mp hc with hc | hc
  · exact hs c hc
  · exact ht c hc

theorem noControl_cons {c : Char} (hc : 0x20 ≤ c.toNat) {t : Text} (ht : NoControl t) :
    NoControl (c :: t) :=
  NoControl.append (s := [c]) (by simpa [NoControl] using hc) ht

theorem NoControl.subset {s t : Text} (h : s ⊆ t) (ht : NoControl t) : NoControl s :=
  fun c hc => ht c (h hc)

theorem noControl_joinWith {ts : List Text} (h : ∀ t ∈ ts, NoControl t) :
    NoControl (Text.joinWith [','] ts) := by
  intro c hc
  rcases Text.mem_joinWith hc with hc | ⟨t, ht, hc⟩
  · obtain rfl := List.mem_singleton.mp hc
    decide
  · exact h t ht c hc

theorem noControl_escapeChar (c : Char) : NoControl (escapeChar c) := by
  unfold escapeChar
  split_ifs with hquote hplain
  · rcases hquote with rfl | rfl
    · decide
    · decide
  · exact noControl_cons hplain (by decide)
  · decide
  · decide
  · decide
  · decide
  · decide
  · rw [(hex_four c.toNat (Nat.lt_of_not_le hplain)).1]
    have hdigit : ∀ n < 0x20, NoControl ['\\', 'u', '0', '0', Nat.digitChar (n / 16),
        Nat.digitChar (n % 16)] := by
      decide
    exact hdigit c.toNat (Nat.lt_of_not_le hplain)

theorem noControl_stringLiteral (t : Text) : NoControl (stringLiteral t) := by
  have hbody : NoControl (t.flatMap escapeChar) := by
    intro c hc
    obtain ⟨d, -, hc⟩ := List.mem_flatMap.mp hc
    exact noControl_escapeChar d c hc
  exact noControl_cons (by decide) (hbody.append (by decide))

theorem noControl_ofNat (n : Nat) : NoControl (Text.ofNat n) := by
  intro c hc
  have hd : '0' ≤ c ∧ c ≤ '9' := by simpa [Char.isDigit, Char.le_def] using isDigit_ofNat c hc
  have h0 : '0'.toNat ≤ c.toNat := hd.1
  exact Nat.le_trans (by decide) h0

theorem noControl_ofInt (i : Int) : NoControl (Text.ofInt i) := by
  cases i with
  | ofNat n => exact noControl_ofNat n
  | negSucc n => exact noControl_cons (by decide) (noControl_ofNat (n + 1))

/-! ## Floating-point numbers -/

/-- The shortest digits of a number are the front of a numeral. -/
theorem exists_shortest_prefix (x : Binary64) : ∃ m, x.shortest.1 <+: Text.ofNat m := by
  unfold Binary64.shortest
  dsimp only
  exact ⟨_, List.rdropWhile_prefix _ _⟩

theorem noControl_floatText (x : Binary64) : NoControl (floatText x) := by
  obtain ⟨m, hfront⟩ := exists_shortest_prefix x
  have hdigits : NoControl x.shortest.1 := (noControl_ofNat m).subset hfront.subset
  have hzeros (k : Nat) : NoControl (List.replicate k '0') := by
    intro c hc
    rw [List.eq_of_mem_replicate hc]
    decide
  have hsign : NoControl (if x.negative then ['-'] else []) := by
    cases x.negative <;> decide
  unfold floatText
  dsimp only
  generalize (if x.negative then ['-'] else []) = sign at hsign ⊢
  generalize x.shortest = digits at hdigits ⊢
  obtain ⟨ds, last⟩ := digits
  have htake (k : Nat) : NoControl (ds.take k) := hdigits.subset (List.take_subset k ds)
  have hdrop (k : Nat) : NoControl (ds.drop k) := hdigits.subset (List.drop_subset k ds)
  have hpoint : NoControl "0.".toList := by decide
  have htail : NoControl (if ds.length = 1 then [] else '.' :: ds.drop 1) := by
    split
    · decide
    · exact noControl_cons (by decide) (hdrop 1)
  have hmark (e : Int) : NoControl (if e < 0 then "e-".toList else "e+".toList) := by
    split <;> decide
  dsimp only
  split
  · exact hsign.append (by decide)
  refine hsign.append ?_
  split
  · -- the digits, with zeros and the point where the exponent puts them
    split
    · exact (hdigits.append (hzeros _)).append (by decide)
    · split
      · exact (htake _).append (noControl_cons (by decide) (hdrop _))
      · exact (hpoint.append (hzeros _)).append hdigits
  · exact (((htake 1).append htail).append (hmark _)).append (noControl_ofNat _)

/-! ## Values -/

mutual

/-- The compact text of a value holds no control character, whatever its strings hold. -/
theorem noControl_render : ∀ v : Json, NoControl (render v)
  | .null => by decide
  | .bool b => by cases b <;> decide
  | .integer i => noControl_ofInt i
  | .float x => noControl_floatText x
  | .string t => noControl_stringLiteral t
  | .array items =>
    (noControl_cons (by decide) (noControl_joinWith (noControl_renderItems items))).append
      (by decide)
  | .object fields =>
    (noControl_cons (by decide) (noControl_joinWith (noControl_renderFields fields))).append
      (by decide)

theorem noControl_renderItems : ∀ items : List Json, ∀ t ∈ renderItems items, NoControl t
  | [] => fun _ h => nomatch h
  | v :: vs => fun t h => by
    rcases List.mem_cons.mp h with rfl | h
    · exact noControl_render v
    · exact noControl_renderItems vs t h

theorem noControl_renderFields :
    ∀ fields : List (Text × Json), ∀ t ∈ renderFields fields, NoControl t
  | [] => fun _ h => nomatch h
  | (k, v) :: fields => fun t h => by
    rcases List.mem_cons.mp h with rfl | h
    · exact (noControl_stringLiteral k).append (noControl_cons (by decide) (noControl_render v))
    · exact noControl_renderFields fields t h

end

end StyleVars.Json
