import StyleVars.Text.Basic

/-
  File paths with `/` between segments. A path keeps its spelling; what it denotes is its list of
  components: repeated and trailing separators and `.` segments are spelling only, except for a
  leading `.`. Two paths are the same when their components are. `..` is never folded here.
-/

namespace StyleVars

/-- A path, as it is spelled. -/
structure Path where
  text : Text
deriving DecidableEq, Repr, Inhabited

namespace Path

/-- What a path is made of. `here` stands for a leading `.`, `up` for `..`. -/
inductive Component where
  | root
  | here
  | up
  | name (n : Text)
deriving DecidableEq, Repr

/-- The path with this spelling. -/
def ofString (s : String) : Path := ⟨s.toList⟩

/-- Does the path start at the root? -/
def isAbsolute (p : Path) : Bool := p.text.head? = some '/'

/-- A segment that is spelling only. -/
def isVoid (segment : Text) : Bool := segment = [] || segment = ['.']

/-- The component a segment stands for, if it is not spelling only. -/
def component? (segment : Text) : Option Component :=
  if isVoid segment then none else if segment = ['.', '.'] then some .up else some (.name segment)

/-- How a path starts: at the root, with a leading `.`, or with its first segment. -/
inductive Start where
  | root
  | here
  | plain
deriving DecidableEq, Repr

/-- A path taken apart: its start, and the segments after it. -/
structure Parts where
  start : Start
  segments : List Text
deriving DecidableEq, Repr

/-- The start of a path and the segments that follow. -/
def parts (p : Path) : Parts :=
  match Text.splitAt '/' p.text with
  | [] :: s :: ss => ⟨.root, s :: ss⟩
  | ['.'] :: ss => ⟨.here, ss⟩
  | ss => ⟨.plain, ss⟩

/-- The text of a path from its parts. -/
def Parts.path (q : Parts) : Path :=
  let tail := Text.joinWith ['/'] q.segments
  match q.start with
  | .root => ⟨'/' :: tail⟩
  | .here => if q.segments.isEmpty then ⟨['.']⟩ else ⟨'.' :: '/' :: tail⟩
  | .plain => ⟨tail⟩

/-- The component a path starts with, if its start is one. -/
def Start.components : Start → List Component
  | .root => [.root]
  | .here => [.here]
  | .plain => []

/-- The components of a path, from the left. -/
def components (p : Path) : List Component :=
  p.parts.start.components ++ p.parts.segments.filterMap component?

/-- Do two spellings have the same components? -/
def same (p q : Path) : Bool := p.components = q.components

/-- Is a spelling of this path in the list? -/
def isIn (p : Path) (ps : List Path) : Bool := ps.any p.same

/-- The parts without segments at the end that are spelling only. -/
def Parts.trim (q : Parts) : Parts := { q with segments := Text.dropEndWhile isVoid q.segments }

/-- The path without its last component; the root and the empty path have no parent. -/
def parent? (p : Path) : Option Path :=
  let q := p.parts.trim
  match q.segments.reverse, q.start with
  | [], .here => some ⟨[]⟩
  | [], _ => none
  | _ :: before, start => some (Parts.path (Parts.trim ⟨start, before.reverse⟩))

/-- The parent, or the empty path. -/
def directory (p : Path) : Path := p.parent?.getD ⟨[]⟩

/-- The name a path ends with, if its last component is a name. -/
def fileName? (p : Path) : Option Text :=
  match p.components.getLast? with
  | some (.name n) => some n
  | _ => none

/-- A name split at its last dot, unless the dot is missing or comes first. -/
def splitExtension (name : Text) : Text × Option Text :=
  match Text.splitLast? '.' name with
  | some (c :: stem, extension) => (c :: stem, some extension)
  | _ => (name, none)

/-- What follows the last dot of the file name; a leading dot does not count. -/
def extension? (p : Path) : Option Text := p.fileName?.bind fun n => (splitExtension n).2

/-- The path `q` taken from the directory `p`: an absolute `q` replaces `p`. -/
def join (p q : Path) : Path :=
  if q.isAbsolute then q
  else if p.text.isEmpty ∨ p.text.getLast? = some '/' then ⟨p.text ++ q.text⟩
  else ⟨p.text ++ '/' :: q.text⟩

/-- The path with another extension on its file name; without a file name it stays as it is. -/
def withExtension (extension : Text) (p : Path) : Path :=
  let q := p.parts.trim
  match p.fileName?, q.segments.reverse with
  | some n, _ :: before =>
    Parts.path ⟨q.start, (((splitExtension n).1 ++ '.' :: extension) :: before).reverse⟩
  | _, _ => p

end Path
end StyleVars
