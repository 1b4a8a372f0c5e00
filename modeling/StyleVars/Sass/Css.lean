import StyleVars.Text.Basic

/-
  Compiled stylesheets: flat rules with their declarations, and how they are laid out. A blank
  line follows each group of rules that came from one outermost rule, and a sheet with characters
  above ASCII starts with its character set.
-/

namespace StyleVars.Sass.Css

/-- A line inside a rule. -/
inductive Line where
  | declaration (property value : Text)
  | comment (t : Text)
  | importLine (spelling : Text)
deriving DecidableEq, Repr

/-- A part of a compiled sheet. -/
inductive Part where
  | rule (selector : Text) (lines : List Line)
  | comment (t : Text)
  | importLine (spelling : Text)
deriving DecidableEq, Repr

/-- The text of an import that is left to CSS. -/
def importText (spelling : Text) : Text := "@import ".toList ++ spelling ++ [';']

/-- The text of a line inside a rule. -/
def Line.text : Line → Text
  | declaration property value => property ++ ": ".toList ++ value ++ [';']
  | comment t => t
  | importLine spelling => importText spelling

/-- The text of a part. -/
def Part.text : Part → Text
  | rule selector lines =>
    selector ++ " \x7b\n".toList ++ lines.flatMap (fun l => "  ".toList ++ l.text ++ ['\n'])
      ++ ['\x7d']
  | comment t => t
  | importLine spelling => importText spelling

/-- Does a group of parts end with a rule? -/
def endsWithRule (group : List Part) : Bool :=
  match group.getLast? with
  | some (.rule ..) => true
  | _ => false

/-- The text of groups of parts. -/
def groupsText : List (List Part) → Text
  | [] => []
  | [g] => Text.joinWith ['\n'] (g.map Part.text) ++ ['\n']
  | g :: gs =>
    Text.joinWith ['\n'] (g.map Part.text) ++ (if endsWithRule g then ['\n', '\n'] else ['\n'])
      ++ groupsText gs

/-- The text of a compiled sheet, given as groups of parts. -/
def sheetText (groups : List (List Part)) : Text :=
  let t := groupsText (groups.filter (!·.isEmpty))
  if t.all (·.toNat < 0x80) then t else "@charset \"UTF-8\";\n".toList ++ t

end StyleVars.Sass.Css
