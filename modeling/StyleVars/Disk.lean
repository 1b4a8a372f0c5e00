import StyleVars.FileSystem

/-
  A file tree in memory. A location is the list of names from the root; the nodes of the tree are
  kept by location, every parent directory among them. A path is walked segment by segment: every
  segment but the last has to lead to a directory, and so has the last one if it is empty or a dot
  segment.
-/

namespace StyleVars

/-- A node of a file tree. -/
inductive Node where
  | file (content : Content)
  | directory
deriving DecidableEq, Repr

/-- A file tree and the location relative paths start from. -/
structure Disk where
  workingDirectory : List Text
  nodes : List (List Text × Node)

namespace Disk

/-- The node at a location; the root is always a directory. -/
def node? (d : Disk) (location : List Text) : Option Node :=
  if location.isEmpty then some .directory else d.nodes.lookup location

/-- Where one segment leads from a location. -/
def step (d : Disk) (location : List Text) (segment : Text) : Except FileError (List Text) :=
  match d.node? location with
  | none => .error .notFound
  | some (.file _) => .error .notDirectory
  | some .directory =>
    if segment = [] ∨ segment = ['.'] then .ok location
    else if segment = ['.', '.'] then .ok location.dropLast
    else .ok (location ++ [segment])

/-- The location a path leads to; there may be nothing at it. -/
def locate (d : Disk) (p : Path) : Except FileError (List Text) :=
  if p.text.isEmpty then .error .notFound
  else
    (Text.splitAt '/' p.text).foldlM d.step (if p.isAbsolute then [] else d.workingDirectory)

/-- The node a path leads to. -/
def lookup (d : Disk) (p : Path) : Except FileError Node :=
  (d.locate p).bind fun l => (d.node? l).elim (.error .notFound) .ok

/-- The working directory as a path. -/
def workingPath (d : Disk) : Path := ⟨'/' :: Text.joinWith ['/'] d.workingDirectory⟩

/-- The file tree as a file system. -/
def fileSystem (d : Disk) : FileSystem where
  workingDirectory := d.workingPath
  isFile p := match d.lookup p with
    | .ok (.file _) => true
    | _ => false
  isDirectory p := match d.lookup p with
    | .ok .directory => true
    | _ => false
  read p := match d.lookup p with
    | .ok (.file c) => .ok c
    | .ok .directory => .error .isDirectory
    | .error e => .error e

/-- Sets the node at a location and makes its parent directories. -/
def put (d : Disk) (location : List Text) (n : Node) : Disk :=
  let parents := (List.range location.length).map fun i => (location.take i, Node.directory)
  let missing := parents.filter fun q => (d.node? q.1).isNone
  { d with nodes := (location, n) :: d.nodes.filter (·.1 ≠ location) ++ missing }

/-- Removes the node at a location. -/
def remove (d : Disk) (location : List Text) : Disk :=
  { d with nodes := d.nodes.filter (·.1 ≠ location) }

/-- The location of a path relative to the working directory, which need not exist. -/
def place (d : Disk) (p : Path) : List Text :=
  (if p.isAbsolute then [] else d.workingDirectory) ++ (Text.splitAt '/' p.text).filter (· ≠ [])

/-- Writes a file. Its directory has to exist, and a path with an empty last segment names no
file. -/
def write (d : Disk) (p : Path) (t : Text) : Except FileError Disk :=
  match d.locate p, p.text.getLast? with
  | .error e, _ => .error e
  | .ok _, some '/' => .error .isDirectory
  | .ok l, _ =>
    match d.node? l with
    | some .directory => .error .isDirectory
    | _ => .ok (d.put l (.file (.text t)))

end Disk
end StyleVars
