import StyleVars.Helper
import StyleVars.Payload.Rule
import StyleVars.Resolve
import StyleVars.Variable.Names

/-
  The import hook of one session. It sees every import of a compilation: an ordinary reference is
  resolved and its file scraped for variable names; the helper's name is answered with the helper
  stylesheet; the session token is answered with the rule over the names seen so far. An import
  that cannot be resolved or read is declined and leaves no trace.
-/

namespace StyleVars

/-- The settings of an extraction. -/
structure Options where
  searchRoots : List Path := []
  extension : Text := defaultExtension
  helperImport : Text := Helper.defaultImport
  debug : Bool := false
deriving Repr

/-- What an import hook tells the compiler about one import. -/
inductive Answer where
  /-- Compile this text in place of the import. -/
  | source (t : Text)
  /-- The import was resolved to this file; the compiler loads it on its own. -/
  | resolved (p : Path)
  /-- The compiler is on its own. -/
  | declined
deriving DecidableEq, Repr

/-- An import hook over a state: answers a reference in an importing file. -/
abbrev ImportHook (σ : Type) := Text → Path → σ → Answer × σ

/-- The state of a session's import hook. -/
structure Interceptor where
  token : Text
  options : Options
  names : Variable.Names
  visited : List Path

namespace Interceptor

/-- The hook of a new session. -/
def start (token : Text) (options : Options) : Interceptor := ⟨token, options, .empty, []⟩

/-- The rule over the names seen so far. -/
def rule? (s : Interceptor) : Option Text := Payload.rule? s.token s.names.toList

/-- Resolves and reads a reference, and takes up the names in the file. -/
def visit (fs : FileSystem) (reference : Text) (importing : Path) (s : Interceptor) :
    Answer × Interceptor :=
  let candidates :=
    Resolve.candidates reference importing s.options.searchRoots s.options.extension
  match Resolve.first fs reference candidates with
  | .error _ => (.declined, s)
  | .ok p =>
    match fs.readText p with
    | .error _ => (.declined, s)
    | .ok t =>
      (.resolved p, { s with names := (s.names.scrape t).2, visited := s.visited ++ [p] })

/-- The answer to one import. -/
def answer (fs : FileSystem) : ImportHook Interceptor := fun reference importing s =>
  if reference = s.token then ((s.rule?.map Answer.source).getD .declined, s)
  else if reference = s.options.helperImport then (.source Helper.source, s)
  else s.visit fs reference importing

end Interceptor

/-- The answers of a hook to imports one after the other, and its state at the end. -/
def ImportHook.run {σ : Type} (hook : ImportHook σ) :
    List (Text × Path) → σ → List Answer × σ
  | [], s => ([], s)
  | (reference, importing) :: calls, s =>
    let (a, s) := hook reference importing s
    let (as, s) := run hook calls s
    (a :: as, s)

end StyleVars
