import StyleVars.Path.Basic

/-
  The lexical normal form of a path: no `.`, and no `..` that could be folded into the name before
  it. At the root `..` stays at the root. The file system is not consulted.
-/

namespace StyleVars.Path

/-- One component more on a normal form, given with the last component first. -/
def push : List Component → Component → List Component
  | stack, .here => stack
  | .name _ :: stack, .up => stack
  | .root :: stack, .up => .root :: stack
  | stack, .up => .up :: stack
  | stack, c => c :: stack

/-- The components of the normal form. -/
def normalComponents (p : Path) : List Component := (p.components.foldl push []).reverse

/-- The text of a component inside a path. -/
def Component.segment : Component → Text
  | .root => []
  | .here => ['.']
  | .up => ['.', '.']
  | .name n => n

/-- The plain spelling of a list of components; no component at all is spelled `.`. -/
def ofComponents : List Component → Path
  | [] => ⟨['.']⟩
  | .root :: cs => ⟨'/' :: Text.joinWith ['/'] (cs.map Component.segment)⟩
  | cs => ⟨Text.joinWith ['/'] (cs.map Component.segment)⟩

/-- The normal form of a path. -/
def normalize (p : Path) : Path := ofComponents p.normalComponents

/-- The path from the root, in normal form, of a path used in a working directory. -/
def absolute (p workingDirectory : Path) : Path :=
  if p.isAbsolute then p.normalize else (workingDirectory.join p).normalize

end StyleVars.Path
