import StyleVars.Compiler
import StyleVars.HookedFiles
import StyleVars.Sass.Css
import StyleVars.Sass.Indented
import StyleVars.Sass.Lookup
import StyleVars.Sass.Scope
import StyleVars.Sass.Sheet

/-
  Compiling stylesheets. A file is read whole before its first statement takes effect; statements
  take effect in order, and an import runs the statements of the imported file in its place. All
  files are looked for and read through the hooked file system, so that the import hook sees them.
-/

namespace StyleVars.Sass

/-- What a compilation works with. -/
structure Setting (σ : Type) where
  fs : FileSystem
  hook : ImportHook σ
  searchRoots : List Path

/-- A compilation on its way: the files it sees, what is in scope, the file and the selectors
around the current statement, the files being loaded, the sheets read so far, and the output: the
lines of the current rule, the parts of the current group, the groups before it, and the imports
in front of them all. -/
structure State (σ : Type) where
  files : HookedFiles σ
  scope : Scope := {}
  path : Path := ⟨[]⟩
  selectors : List Text := []
  loading : List Path := []
  seen : List Path := []
  kept : List (Path × List Statement) := []
  lines : List Css.Line := []
  parts : List Css.Part := []
  groups : List (List Css.Part) := []
  imports : List Css.Part := []

/-- A step of a compilation: it may fail, but what it did up to then remains. -/
abbrev Run (σ : Type) := ExceptT Failure (StateM (State σ))

variable {σ : Type}

namespace Run

/-- Fails unless there is a result. -/
def ofExcept {α : Type} : Except Failure α → Run σ α
  | .ok v => pure v
  | .error e => throw e

/-- Asks the hooked file system. -/
def files {α : Type} (ask : HookedFiles σ → α × HookedFiles σ) : Run σ α := do
  let s ← get
  let (a, files) := ask s.files
  set { s with files }
  return a

end Run

/-! ## Selectors -/

/-- The members of a selector between its outermost commas. -/
def selectorMembers (t : Text) : List Text :=
  let rec go (depth : Nat) : Text → List Text
    | [] => [[]]
    | c :: r =>
      let depth :=
        if c = '(' ∨ c = '[' then depth + 1 else if c = ')' ∨ c = ']' then depth - 1 else depth
      if c = ',' ∧ depth = 0 then [] :: go depth r
      else match go depth r with
        | [] => [[c]]
        | m :: ms => (c :: m) :: ms
  ((go 0 t).map tidy).filter (!·.isEmpty)

/-- Does every bracket in a selector have its partner? The list holds the closing brackets that
are due, and the quote of the string the text stands in. -/
def isBalanced : List Char → Text → Bool
  | due, [] => due.isEmpty
  | due, '\\' :: _ :: r => isBalanced due r
  | [], c :: r =>
    if c = '(' then isBalanced [')'] r
    else if c = '[' then isBalanced [']'] r
    else if c = '"' ∨ c = '\'' then isBalanced [c] r
    else c ≠ ')' && c ≠ ']' && isBalanced [] r
  | d :: due, c :: r =>
    if c = d then isBalanced due r
    else if d = '"' ∨ d = '\'' then isBalanced (d :: due) r
    else if c = '(' then isBalanced (')' :: d :: due) r
    else if c = '[' then isBalanced (']' :: d :: due) r
    else if c = '"' ∨ c = '\'' then isBalanced (c :: d :: due) r
    else c ≠ ')' && c ≠ ']' && isBalanced (d :: due) r

/-- The selectors of a rule inside the selectors around it. -/
def nestSelectors (outer : List Text) (selector : Text) : List Text :=
  let members := selectorMembers selector
  if outer.isEmpty then members
  else outer.flatMap fun o => members.map fun m =>
    if m.contains '&' then m.flatMap fun c => if c = '&' then o else [c] else o ++ ' ' :: m

/-! ## Files -/

/-- The first of these paths at which there is a file. -/
def firstFile (e : Setting σ) : List Path → Run σ (Option Path)
  | [] => pure none
  | p :: ps => do
    if ← Run.files (HookedFiles.isFile e.fs e.hook p) then return some p else firstFile e ps

/-- May the statement stand in plain CSS? -/
def isCssStatement : Statement → Bool
  | .assign .. => false
  | .defineFunction _ => false
  | .rule _ body => body.all fun s => match s with
    | .declaration .. => true
    | .verbatim .. => true
    | .comment _ => true
    | _ => false
  | _ => true

/-- The statement as plain CSS has it: every import is left to CSS. -/
def leftToCss : Statement → Statement
  | .importSheet r => .importSheet { r with isPlain := true }
  | s => s

/-- The statements of a file, in the syntax its extension stands for. -/
def readFile (p : Path) (t : Text) : Option (List Statement) :=
  if p.extension? = some "css".toList then
    (readSheet t).bind fun ss => if ss.all isCssStatement then some (ss.map leftToCss) else none
  else if p.extension? = some "sass".toList then readSheet (Indented.withBraces t)
  else readSheet t

/-- The statements of the file at a path. A file that is read for the second time is kept. -/
def loadFile (e : Setting σ) (p : Path) : Run σ (List Statement) := do
  match (← get).kept.find? fun k => k.1.same p with
  | some (_, ss) => return ss
  | none =>
    match ← Run.files (HookedFiles.read e.fs e.hook p) with
    | .ok (.text t) =>
      match readFile p t with
      | none => throw .malformed
      | some ss =>
        modify fun s =>
          if p.isIn s.seen then { s with kept := (p, ss) :: s.kept }
          else { s with seen := p :: s.seen }
        return ss
    | _ => throw (.unreadable p.text)

/-! ## Statements -/

/-- Runs the imported file in place of the import. -/
def importFile (e : Setting σ) (run : List Statement → Run σ Unit) (reference : Text) :
    Run σ Unit := do
  let s ← get
  match ← firstFile e (Lookup.candidates e.fs e.searchRoots s.path reference) with
  | none => throw (.importNotFound reference)
  | some p =>
    let body ← loadFile e p
    if p.isIn s.loading then throw (.importLoop reference)
    modify fun t => { t with path := p, loading := p :: s.loading }
    run body
    modify fun t => { t with path := s.path, loading := s.loading }

/-- Adds a line to the current rule. -/
def addLine (l : Css.Line) : Run σ Unit := modify fun s => { s with lines := s.lines ++ [l] }

/-- Runs an import. One that is left to CSS stays inside its rule, or else goes to the front. -/
def importSheet (e : Setting σ) (run : List Statement → Run σ Unit) (r : Reference) :
    Run σ Unit := do
  if !r.isPlain then importFile e run r.target
  else if (← get).selectors.isEmpty then
    modify fun s => { s with imports := s.imports ++ [.importLine r.spelling] }
  else addLine (.importLine r.spelling)

/-- Runs the body of a rule in a block of its own, and adds the rule and those inside it to the
output. -/
def runRule (run : List Statement → Run σ Unit) (selector : Text) (body : List Statement) :
    Run σ Unit := do
  let outer ← get
  if !isBalanced [] selector then throw .malformed
  let selectors := nestSelectors outer.selectors selector
  set { outer with
    selectors, lines := [], parts := [],
    scope := { outer.scope with blocks := [] :: outer.scope.blocks } }
  run body
  modify fun inner =>
    let own : List Css.Part :=
      if inner.lines.isEmpty then []
      else [.rule (Text.joinWith ", ".toList selectors) inner.lines]
    let parts := own ++ inner.parts
    let inner := { inner with
      selectors := outer.selectors, lines := outer.lines,
      scope := { inner.scope with blocks := inner.scope.blocks.drop 1 } }
    if outer.selectors.isEmpty then { inner with parts := [], groups := inner.groups ++ [parts] }
    else { inner with parts := outer.parts ++ parts }

/-- Runs an assignment. -/
def runAssignment (name : Text) (value : Expr) (ifUnset inGlobal : Bool) : Run σ Unit := do
  let s ← get
  let isSet : Bool := match s.scope.get? name with
    | none => false
    | some .null => false
    | some _ => true
  if ifUnset ∧ isSet then return ()
  let v ← Run.ofExcept (evaluate s.scope value)
  let scope := if inGlobal then s.scope.setGlobal name v else s.scope.set name v
  set { s with scope }

/-- Is the value a list without members? -/
def isEmptyList : Value → Bool
  | .list items _ _ => items.isEmpty
  | _ => false

/-- Runs one statement. -/
def runStatement (e : Setting σ) (run : List Statement → Run σ Unit) : Statement → Run σ Unit
  | .assign name value ifUnset inGlobal => runAssignment name value ifUnset inGlobal
  | .importSheet r => importSheet e run r
  | .rule selector body => runRule run selector body
  | .declaration property value => do
    let v ← Run.ofExcept (evaluate (← get).scope value)
    if v.isBlank ∧ !isEmptyList v then return ()
    addLine (.declaration property (← Run.ofExcept v.css))
  | .verbatim property value => addLine (.declaration property value)
  | .defineFunction name =>
    modify fun s => { s with scope := { s.scope with functions := name :: s.scope.functions } }
  | .comment t => do
    if (← get).selectors.isEmpty then
      modify fun s => { s with groups := s.groups ++ [[.comment t]] }
    else addLine (.comment t)

/-- Runs statements one after the other. The first argument bounds how deep rules and imports
nest. -/
def runAll (e : Setting σ) : Nat → List Statement → Run σ Unit
  | 0, _ => throw .nestedTooDeep
  | n + 1, ss => ss.forM (runStatement e (runAll e n))

/-- How deep rules and imports may nest. -/
def nestingLimit : Nat := 2000

/-- The compiled text of a program. -/
def compile (e : Setting σ) (source : Text) : Run σ Text := do
  match readSheet source with
  | none => throw .malformed
  | some ss => do
    runAll e nestingLimit ss
    let s ← get
    return Css.sheetText (s.imports :: s.groups)

/-- The stylesheet compiler on a file system. -/
def compiler (fs : FileSystem) : Compiler where
  render hook request s :=
    let start := { files := HookedFiles.start s }
    let (result, final) := (compile ⟨fs, hook, request.searchRoots⟩ request.source).run start
    (result.mapError Failure.message, final.files.hookState)

end StyleVars.Sass
