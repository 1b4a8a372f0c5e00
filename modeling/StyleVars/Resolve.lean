import StyleVars.FileSystem
import StyleVars.Path.Normalize
import StyleVars.Path.Reference

/-
  Where an import reference may point to, and where it does. Candidates come in pairs, the partial
  before the plain file: first beside the importing file, then under each search root in order.
  The first candidate that is a file wins.
-/

namespace StyleVars

/-- The extension references without one get by default. -/
def defaultExtension : Text := ".scss".toList

namespace Resolve

/-- The file name a reference asks for: its own, completed with the extension if it has none. -/
def baseName (reference extension : Text) : Text :=
  let name := (Path.mk reference).fileName?.getD reference
  if (Path.mk name).extension?.isNone then name ++ extension else name

/-- The partial and the plain candidate under a base directory. -/
def pair (reference extension : Text) (base : Path) : List Path :=
  let dir := base.join (Path.mk reference).directory
  let name := baseName reference extension
  [(dir.join ⟨Path.partialMark ++ name⟩).normalize, (dir.join ⟨name⟩).normalize]

/-- Every path a reference may point to, highest priority first, duplicates kept. -/
def candidates (reference : Text) (importing : Path) (roots : List Path) (extension : Text) :
    List Path :=
  (importing.directory :: roots).flatMap (pair reference extension)

/-- The first candidate that is a file. -/
def first (fs : FileSystem) (reference : Text) (cs : List Path) : Except ExtractError Path :=
  match cs.find? fs.isFile with
  | some p => .ok p
  | none => .error (.notFound reference cs)

end Resolve
end StyleVars
