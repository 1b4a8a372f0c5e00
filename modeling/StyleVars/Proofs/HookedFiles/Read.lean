import StyleVars.Proofs.Disk.Walk
import StyleVars.Proofs.HookedFiles.Run
import StyleVars.Proofs.Interceptor.Run
import StyleVars.Proofs.Marker.Declaration
import StyleVars.Proofs.Resolve.Candidates

/-
  What a session has seen of a file it hands to the compiler. The file is announced by its absolute
  path, and the session's hook resolves that path as it resolves any reference: the search roots
  play no part then, but the partial beside the file comes first, and a name without an extension
  is completed. So the file that is scraped may be another one (`Shadowed`). `read_complete_iff`
  says when the names of a file that was read are all there; `read_shadowed_incomplete` is a file
  whose name is missing.
-/

namespace StyleVars.HookedFiles

open Variable (tokens)
open Interceptor (Recorded)
open Resolve (sibling)

/-! ## The file an announced path is resolved to -/

/-- The text that is scraped when a place is announced: that of the partial beside it or of the
file itself, their name completed with the extension. -/
def scrapedText? (fs : FileSystem) (extension : Text) (place : Path) : Option Text :=
  let name := Resolve.baseName place.text extension
  ([sibling place (Path.partialMark ++ name), sibling place name].find? fs.isFile).bind
    fun q => (fs.readText q).toOption

/-- Another file may be taken for the one at this place: its partial is there, or the name has no
extension, so that one is appended. -/
def Shadowed (fs : FileSystem) (place : Path) : Prop :=
  place.extension? = none ∨ ∃ n, place.fileName? = some n ∧
    fs.isFile (sibling place (Path.partialMark ++ n)) = true

theorem found?_absolute {place : Path} (hp : place.isAbsolute = true) {n : Text}
    (hn : place.fileName? = some n) (fs : FileSystem) (o : Options) :
    (Interceptor.found? fs o place.text place).map Prod.snd =
      scrapedText? fs o.extension place := by
  unfold Interceptor.found? Resolve.first scrapedText?
  rw [Resolve.find?_candidates_absolute hp hn]
  dsimp only
  generalize List.find? fs.isFile _ = q
  cases q with
  | none => rfl
  | some q =>
    dsimp only [Option.bind_some]
    cases fs.readText q <;> rfl

/-- A file that nothing shadows is scraped itself. -/
theorem scrapedText?_of_not_shadowed {d : Disk} {p : Path} (hp : p.isAbsolute = true) {T : Text}
    (h : d.fileSystem.read p = .ok (.text T)) (hs : ¬ Shadowed d.fileSystem p)
    (extension : Text) : scrapedText? d.fileSystem extension p = some T := by
  obtain ⟨l, hl, hfile⟩ := Disk.read_eq_ok.mp h
  obtain ⟨n, hn⟩ := Disk.exists_fileName?_eq hp hl hfile
  obtain ⟨hextension, hpartial⟩ := not_or.mp hs
  -- The partial is no file, so the second candidate is next; it is the normal form of the path.
  have hno : d.fileSystem.isFile (sibling p (Path.partialMark ++ n)) = false :=
    Bool.eq_false_iff.mpr fun hpartialFile => hpartial ⟨n, hn, hpartialFile⟩
  have hread : d.fileSystem.read (sibling p n) = .ok (.text T) := by
    rw [Resolve.sibling_fileName hn]
    exact Disk.read_eq_ok.mpr ⟨l, Disk.locate_normalize hp hl, hfile⟩
  have hyes := Disk.isFile_of_read hread
  unfold scrapedText?
  dsimp only
  rw [Resolve.baseName_of_extension hn hextension, List.find?_cons, hno, List.find?_cons, hyes]
  dsimp only [Option.bind_some]
  unfold FileSystem.readText
  rw [hread]
  rfl

/-! ## Sessions -/

/-- The hooked file system of a session after questions. -/
def session (token : Text) (o : Options) (questions : List (FileSystem × Query)) :
    HookedFiles Interceptor :=
  run Interceptor.answer questions (start (Interceptor.start token o))

/-- However the disk changes, the hook's names are those of the imports it was asked about. -/
theorem recorded_session (token : Text) (o : Options) (questions : List (FileSystem × Query)) :
    ∃ log, Recorded token o log (session token o questions).hookState := by
  refine run_hookState (P := fun s => ∃ log, Recorded token o log s) ?_ questions
    ⟨[], Interceptor.recorded_start token o⟩
  intro fs reference importing s ⟨log, h⟩
  exact ⟨_, h.ask ⟨fs, reference, importing⟩⟩

/-- The file read and its place lead to the same content. -/
theorem read_place {d : Disk} (hd : d.Grounded) {p : Path} {c : Content}
    (h : d.fileSystem.read p = .ok c) :
    (place d.fileSystem p).isAbsolute = true ∧
      d.fileSystem.read (place d.fileSystem p) = .ok c := by
  unfold place
  cases hp : p.isAbsolute with
  | true =>
    rw [if_pos rfl]
    exact ⟨hp, h⟩
  | false =>
    obtain ⟨l, hl, hfile⟩ := Disk.read_eq_ok.mp h
    obtain ⟨habsolute, hjoin⟩ := hd.locate_join hp hl
    rw [if_neg Bool.false_ne_true]
    exact ⟨habsolute, Disk.read_eq_ok.mpr ⟨l, hjoin, hfile⟩⟩

/-- The names of a session after it read a file from disk: those before, and those of the text that
is scraped for the file's place. -/
theorem mem_names_read {token : Text} {o : Options} {questions : List (FileSystem × Query)}
    {d : Disk} (hd : d.Grounded) {p : Path} {T v : Text}
    (hdisk : FromDisk d.fileSystem (Interceptor.answer d.fileSystem) p
      (session token o questions))
    (hread : d.fileSystem.read p = .ok (.text T)) :
    v ∈ (read d.fileSystem (Interceptor.answer d.fileSystem) p
        (session token o questions)).2.hookState.names.toList ↔
      v ∈ (session token o questions).hookState.names.toList ∨ ∃ u,
        scrapedText? d.fileSystem o.extension (place d.fileSystem p) = some u ∧ v ∈ tokens u := by
  obtain ⟨log, hlog⟩ := recorded_session token o questions
  obtain ⟨habsolute, hplace⟩ := read_place hd hread
  rw [read_of_not_virtual hdisk.1,
    Interceptor.mem_names_answer hlog.coherent hdisk.2 ⟨_, hlog.rule?_eq⟩, hlog.options_eq]
  obtain ⟨l, hl, hfile⟩ := Disk.read_eq_ok.mp hplace
  obtain ⟨n, hn⟩ := Disk.exists_fileName?_eq habsolute hl hfile
  rw [found?_absolute habsolute hn]

/-! ## A file beside its partial -/

/-- A stylesheet beside a partial of the same name. -/
def partialDisk : Disk where
  workingDirectory := ["r".toList]
  nodes := [(["r".toList], .directory),
    (["r".toList, "v.scss".toList], .file (.text "$a: 1;".toList)),
    (["r".toList, "_v.scss".toList], .file (.text "$b: 2;".toList))]

theorem grounded_partialDisk : partialDisk.Grounded where
  isName := by decide
  reached := by
    intro m hm hne
    rcases List.prefix_cons_iff.mp hm with rfl | ⟨m', rfl, hm'⟩
    · rfl
    · obtain rfl := List.prefix_nil.mp hm'
      exact absurd rfl hne

theorem tokens_partialDisk :
    tokens "$a: 1;".toList = ["$a".toList] ∧ tokens "$b: 2;".toList = ["$b".toList] := by
  have ha : Variable.unitRun "a: 1;".toList = ("a".toList, ": 1;".toList) := by decide
  have hb : Variable.unitRun "b: 2;".toList = ("b".toList, ": 2;".toList) := by decide
  constructor
  · exact (Variable.tokens_of_unitRun (by decide) ha).trans
      (congrArg _ (Variable.tokens_of_notMem (by decide)))
  · exact (Variable.tokens_of_unitRun (by decide) hb).trans
      (congrArg _ (Variable.tokens_of_notMem (by decide)))

/-! ## Names that are there, and names that are missed -/

/-- After a session read a file from disk, it has every name of the file exactly if the file is not
shadowed, or each of its names was there before or stands in the text that was scraped instead. -/
theorem read_complete_iff (token : Text) (o : Options) (questions : List (FileSystem × Query))
    {d : Disk} (hd : d.Grounded) {p : Path} {T : Text}
    (hdisk : FromDisk d.fileSystem (Interceptor.answer d.fileSystem) p
      (session token o questions))
    (hread : (read d.fileSystem (Interceptor.answer d.fileSystem) p
      (session token o questions)).1 = .ok (.text T)) :
    (∀ v ∈ tokens T, v ∈ (read d.fileSystem (Interceptor.answer d.fileSystem) p
        (session token o questions)).2.hookState.names.toList) ↔
      (Shadowed d.fileSystem (place d.fileSystem p) → ∀ v ∈ tokens T,
        v ∈ (session token o questions).hookState.names.toList ∨ ∃ u,
          scrapedText? d.fileSystem o.extension (place d.fileSystem p) = some u ∧
            v ∈ tokens u) := by
  rw [read_of_fromDisk hdisk] at hread
  have hmem (v : Text) := mem_names_read (v := v) hd hdisk hread
  constructor
  · intro h _ v hv
    exact (hmem v).mp (h v hv)
  · intro h v hv
    rw [hmem v]
    by_cases hs : Shadowed d.fileSystem (place d.fileSystem p)
    · exact h hs v hv
    · obtain ⟨habsolute, hplace⟩ := read_place hd hread
      exact .inr ⟨T, scrapedText?_of_not_shadowed habsolute hplace hs o.extension, hv⟩

/-- The partial itself is read, after the file beside it was asked for. -/
theorem read_complete_iff_partial :
    partialDisk.Grounded ∧
      FromDisk partialDisk.fileSystem (Interceptor.answer partialDisk.fileSystem)
        (.ofString "./_v.scss")
        (session Marker.someToken {} [(partialDisk.fileSystem, .isFile (.ofString "v.scss"))]) ∧
      (read partialDisk.fileSystem (Interceptor.answer partialDisk.fileSystem)
        (.ofString "./_v.scss")
        (session Marker.someToken {} [(partialDisk.fileSystem, .isFile (.ofString "v.scss"))])).1 =
          .ok (.text "$b: 2;".toList) ∧
      ((∀ v ∈ tokens "$b: 2;".toList,
        v ∈ (read partialDisk.fileSystem (Interceptor.answer partialDisk.fileSystem)
          (.ofString "./_v.scss") (session Marker.someToken {}
            [(partialDisk.fileSystem, .isFile (.ofString "v.scss"))])).2.hookState.names.toList) ↔
        (Shadowed partialDisk.fileSystem (place partialDisk.fileSystem (.ofString "./_v.scss")) →
          ∀ v ∈ tokens "$b: 2;".toList,
            v ∈ (session Marker.someToken {}
              [(partialDisk.fileSystem, .isFile (.ofString "v.scss"))]).hookState.names.toList ∨
            ∃ u, scrapedText? partialDisk.fileSystem defaultExtension
              (place partialDisk.fileSystem (.ofString "./_v.scss")) = some u ∧ v ∈ tokens u)) := by
  have hdisk : FromDisk partialDisk.fileSystem (Interceptor.answer partialDisk.fileSystem)
      (.ofString "./_v.scss")
      (session Marker.someToken {} [(partialDisk.fileSystem, .isFile (.ofString "v.scss"))]) :=
    ⟨rfl, Interceptor.answer_ne_source (by decide) (by decide)⟩
  have hfile : partialDisk.fileSystem.read (.ofString "./_v.scss") =
      .ok (.text "$b: 2;".toList) := by
    decide
  have hread := (read_of_fromDisk hdisk).trans hfile
  exact ⟨grounded_partialDisk, hdisk, hread,
    read_complete_iff Marker.someToken {} _ grounded_partialDisk hdisk hread⟩

/-- The partial is scraped when the file is read, and the name in the file is missed. -/
theorem read_shadowed_incomplete :
    FromDisk partialDisk.fileSystem (Interceptor.answer partialDisk.fileSystem)
        (.ofString "v.scss") (session Marker.someToken {} []) ∧
      (read partialDisk.fileSystem (Interceptor.answer partialDisk.fileSystem)
        (.ofString "v.scss") (session Marker.someToken {} [])).1 = .ok (.text "$a: 1;".toList) ∧
      "$a".toList ∈ tokens "$a: 1;".toList ∧
      "$a".toList ∉ (read partialDisk.fileSystem (Interceptor.answer partialDisk.fileSystem)
        (.ofString "v.scss") (session Marker.someToken {} [])).2.hookState.names.toList := by
  have hdisk : FromDisk partialDisk.fileSystem (Interceptor.answer partialDisk.fileSystem)
      (.ofString "v.scss") (session Marker.someToken {} []) :=
    ⟨rfl, Interceptor.answer_ne_source (by decide) (by decide)⟩
  have hread : partialDisk.fileSystem.read (.ofString "v.scss") = .ok (.text "$a: 1;".toList) := by
    decide
  have hscraped : scrapedText? partialDisk.fileSystem defaultExtension
      (place partialDisk.fileSystem (.ofString "v.scss")) = some "$b: 2;".toList := by
    decide
  obtain ⟨ha, hb⟩ := tokens_partialDisk
  refine ⟨hdisk, (read_of_fromDisk hdisk).trans hread, ?_, ?_⟩
  · rw [ha]
    exact List.mem_cons_self
  · rw [mem_names_read grounded_partialDisk hdisk hread, not_or]
    refine ⟨List.not_mem_nil, ?_⟩
    rintro ⟨u, hu, hv⟩
    obtain rfl := Option.some.inj (hscraped.symm.trans hu)
    rw [hb] at hv
    exact absurd hv (by decide)

end StyleVars.HookedFiles
