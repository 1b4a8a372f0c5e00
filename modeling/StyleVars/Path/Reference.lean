import StyleVars.Path.Basic

/-
  Import references behind probe paths. A compiler that looks for the import `name` tries files
  such as `_name.import.scss`; `importReference?` recovers `name` from them.
-/

namespace StyleVars.Path

/-- The extensions a probe path may have. -/
def stylesheetExtensions : List Text := [".scss".toList, ".sass".toList, ".css".toList]

/-- The mark of a file that is for `@import` only. -/
def importOnlyMark : Text := ".import".toList

/-- What a partial file's name starts with. -/
def partialMark : Text := ['_']

/-- The import name a path is tried for: its file name without one stylesheet extension, the
import-only mark and the partial mark, unless nothing is left. -/
def importReference? (p : Path) : Option Text :=
  p.fileName?.bind fun n =>
    let stem := (stylesheetExtensions.findSome? fun e => Text.stripSuffix? e n).getD n
    let stem := (Text.stripSuffix? importOnlyMark stem).getD stem
    let stem := (Text.stripPrefix? partialMark stem).getD stem
    if stem.isEmpty then none else some stem

end StyleVars.Path
