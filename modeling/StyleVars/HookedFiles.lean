import StyleVars.Interceptor

/-
  The file system a compiler sees when it has no import callback of its own. A probe for a path
  that is no file asks the hook about the bare import name, once for every directory and name; a
  source answer makes the path a virtual file. Every other file is announced to the hook by its
  absolute path before its content is handed over. Virtual files are never changed or removed.
-/

namespace StyleVars

/-- Virtual files, the probes made so far, and the state of the hook. -/
structure HookedFiles (σ : Type) where
  virtualFiles : List (Path × Text)
  probed : List (Path × Text)
  hookState : σ

namespace HookedFiles

variable {σ : Type}

/-- No virtual file, nothing probed. -/
def start (s : σ) : HookedFiles σ := ⟨[], [], s⟩

/-- The text of the virtual file at a path. -/
def virtual? (w : HookedFiles σ) (p : Path) : Option Text :=
  (w.virtualFiles.find? fun f => f.1.same p).map (·.2)

/-- Has the hook been asked about this name in this directory? -/
def isProbed (w : HookedFiles σ) (directory : Path) (reference : Text) : Bool :=
  w.probed.any fun q => q.1.same directory && q.2 = reference

/-- The extension of virtual files: hook sources are in this syntax. -/
def virtualExtension : Text := "scss".toList

/-- Asks the hook whether it serves the import a path is probed for. -/
def probe (hook : ImportHook σ) (p : Path) (w : HookedFiles σ) : Bool × HookedFiles σ :=
  if p.extension? = some virtualExtension then
    match p.importReference? with
    | none => (false, w)
    | some reference =>
      if w.isProbed p.directory reference then (false, w)
      else
        let probed := w.probed ++ [(p.directory, reference)]
        match hook reference p w.hookState with
        | (.source t, s) => (true, ⟨w.virtualFiles ++ [(p, t)], probed, s⟩)
        | (_, s) => (false, ⟨w.virtualFiles, probed, s⟩)
  else (false, w)

/-- Is there a file at the path, on disk or virtual, or made virtual by this very question? -/
def isFile (fs : FileSystem) (hook : ImportHook σ) (p : Path) (w : HookedFiles σ) :
    Bool × HookedFiles σ :=
  if (w.virtual? p).isSome || fs.isFile p then (true, w) else probe hook p w

/-- Is there a directory at the path? -/
def isDirectory (fs : FileSystem) (p : Path) : Bool := fs.isDirectory p

/-- The content of the file at the path. -/
def read (fs : FileSystem) (hook : ImportHook σ) (p : Path) (w : HookedFiles σ) :
    Except FileError Content × HookedFiles σ :=
  match w.virtual? p with
  | some t => (.ok (.text t), w)
  | none =>
    let place := if p.isAbsolute then p else fs.workingDirectory.join p
    match hook place.text place w.hookState with
    | (.source t, s) => (.ok (.text t), { w with hookState := s })
    | (_, s) => (fs.read p, { w with hookState := s })

end HookedFiles
end StyleVars
