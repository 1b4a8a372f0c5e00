import StyleVars.Compiler
import StyleVars.Payload.Extract

/-
  One extraction session is one compilation. The session hands the compiler a program of three
  imports (the entry point, the helper, the session token), answers the imports the compiler
  meets, and reads the variables out of the compiled text.
-/

namespace StyleVars

namespace Session

/-- A path text as it is put between the quotes of an import. -/
def quoteImport (p : Path) : Text :=
  p.text.flatMap fun c => if c = '\\' then ['/'] else if c = '"' then ['\\', '"'] else [c]

/-- An import of a quoted reference. -/
def importLine (quoted : Text) : Text := "@import \"".toList ++ quoted ++ "\";\n".toList

/-- The program that imports the entry point, the helper and the token. -/
def program (entry : Path) (helperImport token : Text) : Text :=
  importLine (quoteImport entry) ++ importLine helperImport ++ importLine token

/-- The search roots with the entry point's directory at the end, unless it is among them. -/
def searchRoots (entry : Path) (roots : List Path) : List Path :=
  match entry.parent? with
  | none => roots
  | some dir => if dir.isIn roots then roots else roots ++ [dir]

/-- The options of a session on an entry point in normal form. -/
def optionsFor (entry : Path) (options : Options) : Options :=
  { options with searchRoots := searchRoots entry options.searchRoots }

/-- What the compiler is asked to render for an entry point in normal form. -/
def request (token : Text) (options : Options) (entry : Path) : RenderRequest :=
  ⟨program entry options.helperImport token, searchRoots entry options.searchRoots⟩

/-- Names the entry point in an extraction failure. -/
def withEntry (entry : Path) : ExtractError → ExtractError
  | .extractionFailed e _ => .extractionFailed e (some entry)
  | e => e

/-- The variables of an entry point. -/
def run (fs : FileSystem) (compiler : Compiler) (token : Text) (options : Options)
    (entry : Path) : Except ExtractError VariableMap :=
  let entry := entry.absolute fs.workingDirectory
  let hook := Interceptor.answer fs
  let start := Interceptor.start token (optionsFor entry options)
  match (compiler.render hook (request token options entry) start).1 with
  | .error message => .error (.compilationFailed message)
  | .ok output => (Payload.extract token output).mapError (withEntry entry)

end Session
end StyleVars
