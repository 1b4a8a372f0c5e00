import StyleVars.FileSystem

/-
  Watching for changes: which directories are watched for an entry point, and which events call
  for another extraction.
-/

namespace StyleVars.Watch

/-- The directory of the entry point as it is spelled, the current one if it has none. -/
def entryDirectory (entry : Path) : Path :=
  match entry.parent? with
  | some p => if p.text.isEmpty then ⟨['.']⟩ else p
  | none => ⟨['.']⟩

/-- The directories to watch: the entry's own, then the search roots that exist, each once. -/
def directories (fs : FileSystem) (entry : Path) (roots : List Path) : List Path :=
  roots.foldl (fun ds root =>
    if fs.isDirectory root && !root.isIn ds then ds ++ [root] else ds) [entryDirectory entry]

/-- Can the path be watched? There has to be something at it. -/
def checkOne (fs : FileSystem) (p : Path) : Except ExtractError Unit :=
  match fs.read p with
  | .ok _ => .ok ()
  | .error .isDirectory => .ok ()
  | .error e => .error (.inputOutput (.watch e))

/-- Can all these directories be watched? The first that cannot is the error. -/
def check (fs : FileSystem) (ds : List Path) : Except ExtractError Unit :=
  ds.forM (checkOne fs)

/-- What happened to files. -/
inductive Change where
  | any
  | access
  | create
  | modify
  | remove
  | other
deriving DecidableEq, Repr

/-- Does the change alter the files there are or what is in them? -/
def Change.alters : Change → Bool
  | create => true
  | modify => true
  | remove => true
  | _ => false

/-- The extensions of the files that are watched. -/
def extensions : List Text := ["scss".toList, "sass".toList, "css".toList]

/-- Is it a stylesheet by its extension? -/
def isStylesheet (p : Path) : Bool :=
  match p.extension? with
  | some e => extensions.contains e
  | none => false

/-- Does the event call for another extraction? -/
def isStylesheetChange (c : Change) (paths : List Path) : Bool := c.alters && paths.any isStylesheet

end StyleVars.Watch
