import StyleVars.CommandLine.Job
import StyleVars.Path.Normalize
import StyleVars.Watch

/-
  What a command line may look at. A file tree is too large to be taken up as a whole, so a run
  starts from the files and directories its arguments name, and goes on to the directories that
  the texts between quotes in a stylesheet may lead to. More than is needed does no harm.
-/

namespace StyleVars.CommandLine

/-- The files that the arguments name. -/
def Arguments.files (a : Arguments) : List Path :=
  let input := match a.command with
    | none => []
    | some (.extract e) => [e.input]
    | some (.names input) => [input]
  (a.config.toList ++ input).map Path.mk

/-- The extraction the arguments ask for, if it is one. -/
def Arguments.job? (a : Arguments) (c : Config) : Option Job :=
  match a.command with
  | some (.extract e) => some (e.job c)
  | _ => none

namespace Job

/-- The directories where a job looks for files before it has seen a stylesheet. -/
def directories (j : Job) (workingDirectory : Path) : List Path :=
  let output := j.output.toList.map Path.directory
  (workingDirectory :: j.entry.directory :: output ++ j.options.searchRoots).map
    (·.absolute workingDirectory)

/-- The extensions of the files a job may read. -/
def extensions (j : Job) : List Text := j.options.extension.drop 1 :: Watch.extensions

end Job

/-- The pieces of a text between quotes of either kind, and those between them. -/
def pieces (t : Text) : List Text := (Text.splitAt '"' t).flatMap (Text.splitAt '\'')

/-- The directories that a stylesheet's imports may lead to, given the directories where
references start. -/
def reach (starts : List Path) (stylesheet : Text) : List Path :=
  let references := (pieces stylesheet).filter fun t => !t.isEmpty && !t.contains '\n'
  references.flatMap fun t => starts.flatMap fun start =>
    let target := start.join ⟨t⟩
    [target.directory.normalize, target.normalize]

end StyleVars.CommandLine
