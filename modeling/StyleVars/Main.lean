import StyleVars.CommandLine.Reach
import StyleVars.CommandLine.Run

/-
  The program. It takes up the files a command line may look at into a file tree in memory, runs
  the command line on that tree, and hands on what the run prints and writes. With `--watch` it
  does so again whenever a stylesheet in a watched directory has changed.
-/

namespace StyleVars.Program

/-- The text of a path as the system takes it. -/
def spelling (p : Path) : String := String.ofList p.text

/-- Takes up the files that stand on the way to a location, where directories should be. -/
def takeWay (d : Disk) (place : List Text) : IO Disk := do
  let mut d := d
  for n in List.range place.length do
    let way := place.take n
    let p := (← IO.currentDir) / spelling ⟨'/' :: Text.joinWith ['/'] way⟩
    if (← p.pathExists) && !(← p.isDir) then d := d.put way (.file (.binary []))
  return d

/-- Takes up one file, if it can be read; a directory in its place is taken up as empty. -/
def takeFile (d : Disk) (p : Path) : IO Disk := do
  let place := d.place (p.absolute d.workingPath)
  if ← ((← IO.currentDir) / spelling p).isDir then return d.put place .directory
  try
    let bytes ← IO.FS.readBinFile (spelling p)
    return d.put place (.file (.ofBytes bytes))
  catch _ => takeWay d place

/-- Takes up one directory: the names in it, and the files with these extensions. -/
def takeDirectory (extensions : List Text) (d : Disk) (p : Path) : IO (Disk × List Path) := do
  try
    let mut d := d.put (d.place p) .directory
    let mut files := []
    for entry in ← ((← IO.currentDir) / spelling p).readDir do
      let child := p.join (Path.ofString entry.fileName)
      if ← entry.path.isDir then d := d.put (d.place child) .directory
      else if (child.extension?.map extensions.contains).getD false then
        d ← takeFile d child
        files := child :: files
    return (d, files)
  catch _ => return (d, [])

/-- Takes up directories, and those that the stylesheets in them lead to. -/
partial def takeAll (job : CommandLine.Job) (d : Disk) (seen : List Path) :
    List Path → IO Disk
  | [] => return d
  | p :: ps => do
    if seen.contains p || !(← ((← IO.currentDir) / spelling p).isDir) then
      return ← takeAll job d (p :: seen) ps
    let (d, files) ← takeDirectory job.extensions d p
    let roots := job.options.searchRoots.map (·.absolute d.workingPath)
    let reached := files.flatMap fun f => match d.fileSystem.readText f with
      | .ok t => CommandLine.reach (p :: roots) t
      | .error _ => []
    takeAll job d (p :: seen) (ps ++ reached.eraseDups)

/-- The file tree for a job. -/
def takeJob (job : CommandLine.Job) (d : Disk) : IO Disk := do
  takeAll job (← takeFile d job.entry) [] (job.directories d.workingPath)

/-- The tree that holds nothing but the working directory. -/
def emptyDisk : IO Disk := do
  let names := (Text.splitAt '/' (← IO.currentDir).toString.toList).filter (· ≠ [])
  return (Disk.mk names []).put names .directory

/-- The configuration of a command line; a bad one counts as none here, and the run reports it. -/
def configOf (a : CommandLine.Arguments) (d : Disk) : Config :=
  match a.config.map (Config.load d.fileSystem) with
  | some (.ok c) => c
  | _ => {}

/-- The file tree for a command line. -/
def takeUp (args : List Text) : IO Disk := do
  let d ← emptyDisk
  match CommandLine.Arguments.read args with
  | .error _ => return d
  | .ok a =>
    let d ← a.files.foldlM takeFile d
    match a.job? (configOf a d) with
    | some job => takeJob job d
    | none => return d

/-- A token for one session. -/
def newToken : IO Text := do
  let bytes ← IO.getRandomBytes 16
  return sessionToken (bytes.toList.foldl (fun n b => n * 256 + b.toNat) 0)

/-- Prints a text on standard error. -/
def report (t : Text) : IO Unit := IO.eprintln (String.ofList t)

/-- Hands on what a run printed and wrote. -/
def handOn (o : CommandLine.Outcome) : IO Unit := do
  if let some (p, t) := o.written then
    IO.FS.writeFile (spelling p) (String.ofList t)
  let out ← IO.getStdout
  out.putStr (String.ofList o.printed)
  out.flush

/-- One extraction of a watching run. -/
def extractAgain (job : CommandLine.Job) (failure : Text) : IO Unit := do
  let d ← takeJob job (← emptyDisk)
  match job.once d (← newToken) with
  | .ok o => handOn o
  | .error e => report (failure ++ ": ".toList ++ e.message)

/-- The stylesheets under a directory, each with the time of its last change. -/
partial def stamps (p : Path) : IO (List (Path × Int × UInt32)) := do
  try
    let mut found := []
    for entry in ← ((← IO.currentDir) / spelling p).readDir do
      let child := p.join (Path.ofString entry.fileName)
      if (← entry.path.symlinkMetadata).type == .dir then found := found ++ (← stamps child)
      else if Watch.isStylesheet child then
        let time := (← entry.path.metadata).modified
        found := found ++ [(child, time.sec, time.nsec)]
    return found
  catch _ => return []

/-- Extracts again whenever the stylesheets in the directories have changed. -/
partial def keepWatching (job : CommandLine.Job) (directories : List Path)
    (before : List (Path × Int × UInt32)) : IO Unit := do
  IO.sleep 250
  let now := (← directories.mapM stamps).flatten
  if now != before then extractAgain job "Extraction failed".toList
  keepWatching job directories now

/-- Runs the program. -/
def run (args : List Text) : IO UInt32 := do
  let d ← takeUp args
  match CommandLine.run d (← newToken) args with
  | .over o =>
    handOn o
    if let some e := o.error then report e
    return o.code.toUInt32
  | .usage e =>
    let out ← if e.code = 0 then IO.getStdout else IO.getStderr
    out.putStr (String.ofList e.message)
    return e.code.toUInt32
  | .watching job directories =>
    report job.watchingLine
    let before := (← directories.mapM stamps).flatten
    extractAgain job "Initial extraction failed".toList
    keepWatching job directories before
    return 0

end StyleVars.Program

def main (args : List String) : IO UInt32 := do
  try StyleVars.Program.run (args.map (·.toList))
  catch e =>
    StyleVars.Program.report ("IO Error: ".toList ++ (toString e).toList)
    return 1
