import StyleVars.Proofs.CssString.Encoding
import StyleVars.Proofs.Payload.Extract
import StyleVars.Session

/-
  How a session ends. All that the compiler and the import hook did is in the text or the message
  the compiler ends with (`compiled`); what the session makes of it does not look at anything else.
  A message becomes the failure of the compilation, a text that carries variables becomes these,
  and a text that carries nothing becomes a failure that names the entry point (`run_outcome`).
-/

namespace StyleVars.Session

open Payload (Carries CarriesNothing)

variable {fs : FileSystem} {compiler : Compiler} {token : Text} {options : Options} {entry : Path}

/-- What the compiler ends with in a session. -/
def compiled (fs : FileSystem) (compiler : Compiler) (token : Text) (options : Options)
    (entry : Path) : Except Text Text :=
  let place := entry.absolute fs.workingDirectory
  (compiler.render (Interceptor.answer fs) (request token options place)
    (Interceptor.start token (optionsFor place options))).1

theorem run_of_message {message : Text}
    (h : compiled fs compiler token options entry = .error message) :
    run fs compiler token options entry = .error (.compilationFailed message) := by
  unfold compiled at h
  unfold run
  dsimp only at h ⊢
  rw [h]

theorem run_of_output {output : Text} (h : compiled fs compiler token options entry = .ok output) :
    run fs compiler token options entry =
      (Payload.extract token output).mapError
        (withEntry (entry.absolute fs.workingDirectory)) := by
  unfold compiled at h
  unfold run
  dsimp only at h ⊢
  rw [h]

theorem run_of_carries {output : Text} {values : VariableMap}
    (h : compiled fs compiler token options entry = .ok output)
    (hc : Carries token output values) :
    run fs compiler token options entry = .ok values := by
  rw [run_of_output h, hc.extract_eq]
  rfl

theorem run_of_carriesNothing {output : Text}
    (h : compiled fs compiler token options entry = .ok output)
    (hc : CarriesNothing token output) :
    ∃ cause, run fs compiler token options entry =
      .error (.extractionFailed cause (some (entry.absolute fs.workingDirectory))) := by
  obtain ⟨cause, hcause⟩ := hc.extract_eq
  rw [run_of_output h, hcause]
  exact ⟨cause, rfl⟩

/-- The three ways a session ends, each with what the compiler ended with. -/
theorem run_cases (fs : FileSystem) (compiler : Compiler) (token : Text) (options : Options)
    (entry : Path) :
    (∃ message, compiled fs compiler token options entry = .error message ∧
      run fs compiler token options entry = .error (.compilationFailed message)) ∨
    (∃ output cause, compiled fs compiler token options entry = .ok output ∧
      CarriesNothing token output ∧
      run fs compiler token options entry =
        .error (.extractionFailed cause (some (entry.absolute fs.workingDirectory)))) ∨
    (∃ output values, compiled fs compiler token options entry = .ok output ∧
      Carries token output values ∧ run fs compiler token options entry = .ok values) := by
  cases hfinal : compiled fs compiler token options entry with
  | error message => exact .inl ⟨message, rfl, run_of_message hfinal⟩
  | ok output =>
    rcases Payload.carries_or_nothing token output with ⟨values, hc⟩ | hnothing
    · exact .inr (.inr ⟨output, values, rfl, hc, run_of_carries hfinal hc⟩)
    · obtain ⟨cause, hcause⟩ := run_of_carriesNothing hfinal hnothing
      exact .inr (.inl ⟨output, cause, rfl, hnothing, hcause⟩)

/-- The failure of the compilation is the compiler's, with its message. -/
theorem run_eq_compilationFailed {message : Text} :
    run fs compiler token options entry = .error (.compilationFailed message) ↔
      compiled fs compiler token options entry = .error message := by
  refine ⟨fun h => ?_, run_of_message⟩
  rcases run_cases fs compiler token options entry with
    ⟨m, hfinal, hm⟩ | ⟨output, cause, -, -, hfailed⟩ | ⟨output, values, -, -, hvalues⟩
  · rw [hm] at h
    cases h
    exact hfinal
  · rw [hfailed] at h
    cases h
  · rw [hvalues] at h
    cases h

/-- The extraction fails exactly if there is a text, and it carries nothing. -/
theorem run_eq_extractionFailed :
    (∃ cause, run fs compiler token options entry =
      .error (.extractionFailed cause (some (entry.absolute fs.workingDirectory)))) ↔
      ∃ output, compiled fs compiler token options entry = .ok output ∧
        CarriesNothing token output := by
  constructor
  · rintro ⟨cause, h⟩
    rcases run_cases fs compiler token options entry with
      ⟨m, -, hm⟩ | ⟨output, _, hfinal, hnothing, -⟩ | ⟨output, values, -, -, hvalues⟩
    · rw [hm] at h
      cases h
    · exact ⟨output, hfinal, hnothing⟩
    · rw [hvalues] at h
      cases h
  · rintro ⟨output, hfinal, hnothing⟩
    exact run_of_carriesNothing hfinal hnothing

/-- There are variables exactly if there is a text that carries them. -/
theorem run_eq_ok {values : VariableMap} :
    run fs compiler token options entry = .ok values ↔
      ∃ output, compiled fs compiler token options entry = .ok output ∧
        Carries token output values := by
  constructor
  · intro h
    rcases run_cases fs compiler token options entry with
      ⟨m, -, hm⟩ | ⟨output, cause, -, -, hfailed⟩ | ⟨output, others, hfinal, hcarries, hothers⟩
    · rw [hm] at h
      cases h
    · rw [hfailed] at h
      cases h
    · rw [hothers] at h
      cases h
      exact ⟨output, hfinal, hcarries⟩
  · rintro ⟨output, hfinal, hcarries⟩
    exact run_of_carries hfinal hcarries

/-- The message of a failed extraction ends with the entry point. -/
theorem entry_suffix_message {cause : ExtractionFailure} {place : Option Path}
    (h : run fs compiler token options entry = .error (.extractionFailed cause place)) :
    " (entry point '".toList ++ (entry.absolute fs.workingDirectory).text ++ "')".toList <:+
      (ExtractError.extractionFailed cause place).message := by
  rcases run_cases fs compiler token options entry with
    ⟨m, -, hm⟩ | ⟨output, _, -, -, hfailed⟩ | ⟨output, others, -, -, hothers⟩
  · rw [hm] at h
    cases h
  · rw [hfailed] at h
    cases h
    exact List.suffix_append _ _
  · rw [hothers] at h
    cases h

/-- The session ends with nothing but what its compiler ended with and where its entry point is. -/
theorem run_congr {fs' : FileSystem} {compiler' : Compiler} {options' : Options} {entry' : Path}
    (hplace : entry'.absolute fs'.workingDirectory = entry.absolute fs.workingDirectory)
    (hfinal : compiled fs' compiler' token options' entry' =
      compiled fs compiler token options entry) :
    run fs' compiler' token options' entry' = run fs compiler token options entry := by
  cases h : compiled fs compiler token options entry with
  | error message =>
    rw [run_of_message h, run_of_message (hfinal.trans h)]
  | ok output =>
    rw [run_of_output h, run_of_output (hfinal.trans h), hplace]

/-- Whatever the compiler does and asks on its way, a session ends in one of three ways: the
compilation failed, with the compiler's own message; the extraction failed, with the entry point in
its message; or there are variables, those the compiled text carries. Which of them is decided by
what the compiler ended with, and so another session whose compiler ends alike ends alike. -/
theorem run_outcome (fs : FileSystem) (compiler : Compiler) (token : Text) (options : Options)
    (entry : Path) :
    let place := entry.absolute fs.workingDirectory
    let final := compiled fs compiler token options entry
    let result := run fs compiler token options entry
    ((∃ message, result = .error (.compilationFailed message)) ∨
      (∃ cause, result = .error (.extractionFailed cause (some place))) ∨
      ∃ values, result = .ok values) ∧
    (∀ message, result = .error (.compilationFailed message) ↔ final = .error message) ∧
    ((∃ cause, result = .error (.extractionFailed cause (some place))) ↔
      ∃ output, final = .ok output ∧ CarriesNothing token output) ∧
    (∀ values, result = .ok values ↔ ∃ output, final = .ok output ∧ Carries token output values) ∧
    (∀ cause place', result = .error (.extractionFailed cause place') →
      " (entry point '".toList ++ place.text ++ "')".toList <:+
        (ExtractError.extractionFailed cause place').message) ∧
    ∀ fs' compiler' options' entry', entry'.absolute fs'.workingDirectory = place →
      compiled fs' compiler' token options' entry' = final →
      run fs' compiler' token options' entry' = result := by
  intro place final result
  refine ⟨?_, fun message => run_eq_compilationFailed, run_eq_extractionFailed,
    fun values => run_eq_ok, fun cause place' h => entry_suffix_message h,
    fun fs' compiler' options' entry' hplace hfinal => run_congr hplace hfinal⟩
  rcases run_cases fs compiler token options entry with
    ⟨message, -, h⟩ | ⟨output, cause, -, -, h⟩ | ⟨output, values, -, -, h⟩
  · exact .inl ⟨message, h⟩
  · exact .inr (.inl ⟨cause, h⟩)
  · exact .inr (.inr ⟨values, h⟩)

/-- An object text in which a name comes back. -/
def samplePayload : Text := "\x7b\"a\":1,\"b\":null,\"a\": [null]\x7d".toList

/-- A declaration that is cut off, and one that is complete. -/
def sampleOutput : Text :=
  Marker.property Marker.someToken ++ ": '\x7b\"a\":\n.x \x7b ".toList ++
    Marker.property Marker.someToken ++ ": '".toList ++ samplePayload ++ "'; \x7d".toList

theorem members_samplePayload : Json.objectMembers? samplePayload =
    some [("a".toList, .integer 1), ("b".toList, .null), ("a".toList, .array [.null])] := by
  have hword : Json.IsWord64 1 := by
    unfold Json.IsWord64
    omega
  have ha : Json.StringSpelling "a".toList "a".toList := Json.stringSpelling_of_raw (by decide)
  have hb : Json.StringSpelling "b".toList "b".toList := Json.stringSpelling_of_raw (by decide)
  have hblank : ∀ c ∈ [' '], Json.isBlank c = true := List.all_eq_true.mp (by decide)
  have hnone : ∀ c ∈ ([] : Text), Json.isBlank c = true := List.all_eq_true.mp (by decide)
  exact Json.objectMembers?_spelling
    (.cons (.mk ha hnone (.integer hword)) (.cons (.mk hb hnone .null)
      (.last (.mk ha hblank (.array (.last .null))))))

/-- The compiler asks for a file that is not there and for the token, and writes the sample. -/
theorem run_outcome_sample :
    let fs : FileSystem :=
      ⟨.ofString "/w", fun _ => false, fun _ => false, fun _ => .error .notFound⟩
    let compiler := Compiler.scripted
      [("gone".toList, .ofString "stdin"), (Marker.someToken, .ofString "stdin")] (.ok sampleOutput)
    run fs compiler Marker.someToken {} (.ofString "./main.scss") =
      .ok [("a".toList, .array [.null])] := by
  intro fs compiler
  have hfirst : Marker.FirstDeclared (Marker.property Marker.someToken) sampleOutput samplePayload :=
    Marker.find?_eq_some.mp (by decide +kernel)
  have hdecode : CssString.decode samplePayload = samplePayload :=
    CssString.decode_of_notMem (by decide)
  have hmembers := members_samplePayload
  rw [← hdecode] at hmembers
  have hcarries : Carries Marker.someToken sampleOutput [("a".toList, .array [.null])] :=
    ⟨_, _, _, hfirst, hmembers, Json.merged_ofMembers _, rfl⟩
  have houtcome := run_outcome fs compiler Marker.someToken {} (.ofString "./main.scss")
  exact (houtcome.2.2.2.1 _).mpr ⟨sampleOutput, rfl, hcarries⟩

end StyleVars.Session
