import StyleVars.FileSystem

/-
  Where the compiler looks for an import. A reference with a stylesheet extension is tried beside
  the importing file only, the import-only file first. Without one, every extension is tried
  beside the importing file and then under every search root, in each place also for the index
  file of a directory. The plain file comes before the partial.
-/

namespace StyleVars.Sass.Lookup

/-- Is the reference left to CSS? It is if it names a CSS file or an address, and takes five bytes
at least. -/
def isPlainCss (reference : Text) : Bool :=
  let t := reference.map Char.toLower
  5 ≤ Text.byteSize reference &&
    ((Text.stripSuffix? ".css".toList t).isSome
      || ["http://", "https://", "//"].any fun p => p.toList.isPrefixOf t)

/-- The extensions tried for a reference without one, in order. -/
def triedExtensions : List Text :=
  ["import.sass", "import.scss", "import.css", "sass", "scss", "css"].map String.toList

/-- The extensions that a reference may spell out. -/
def spelledExtensions : List Text := ["scss", "sass", "css"].map String.toList

/-- A file and the partial of the same name. -/
def withPartial (p : Path) : List Path :=
  [p, p.directory.join ⟨'_' :: p.fileName?.getD ['.', '.']⟩]

/-- The files tried for a path without extension. -/
def withExtensions (p : Path) : List Path :=
  triedExtensions.flatMap fun e => withPartial (p.withExtension e)

/-- The files tried for a path without extension, those in a directory of that name last. -/
def withIndex (fs : FileSystem) (p : Path) : List Path :=
  withExtensions p
    ++ if fs.isDirectory p then withExtensions (p.join (Path.ofString "index")) else []

/-- Every file tried for a reference in an importing file, in order. -/
def candidates (fs : FileSystem) (roots : List Path) (importing : Path) (reference : Text) :
    List Path :=
  let target : Path := ⟨reference⟩
  let beside := importing.directory.join target
  match beside.extension? with
  | some e =>
    if spelledExtensions.contains e then
      withPartial (beside.withExtension ("import.".toList ++ e)) ++ withPartial beside
    else withIndex fs beside ++ roots.flatMap fun root => withIndex fs (root.join target)
  | none => withIndex fs beside ++ roots.flatMap fun root => withIndex fs (root.join target)

end StyleVars.Sass.Lookup
