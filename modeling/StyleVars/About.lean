import StyleVars.Text.Basic

/-
  What the program says about itself.
-/

namespace StyleVars.About

/-- The name of the program. -/
def name : Text := "sassvars".toList

/-- The version of the program. -/
def version : Text := "0.1.0".toList

/-- What the program is for. -/
def description : Text :=
  "Sass variable extractor - resolve the final values of stylesheet variables to JSON".toList

/-- The line that tells the version. -/
def versionLine : Text := name ++ ' ' :: version ++ ['\n']

end StyleVars.About
