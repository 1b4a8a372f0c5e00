import StyleVars.Sass.Value

/-
  Stylesheets as trees: expressions, and the statements of a file or block.
-/

namespace StyleVars.Sass

/-- The arithmetic operators. -/
inductive Operator where
  | plus
  | minus
  | times
deriving DecidableEq, Repr

/-- An expression. A quoted string is the sequence of its parts, plain text among them as literal
unquoted strings. -/
inductive Expr where
  | literal (v : Value)
  | variable (name : Text)
  | quoted (parts : List Expr)
  | list (items : List Expr) (separator : Separator) (bracketed : Bool)
  | map (entries : List (Expr × Expr))
  | binary (o : Operator) (left right : Expr)
  | negate (e : Expr)
  | call (name : Text) (arguments : List Expr)

/-- A reference of an import: as it is spelled, with its quotes, what it refers to, and whether it
is left to CSS. -/
structure Reference where
  spelling : Text
  target : Text
  isPlain : Bool

/-- A statement. Variable and function names are in the form in which they are looked up. -/
inductive Statement where
  | assign (name : Text) (value : Expr) (ifUnset inGlobal : Bool)
  | importSheet (reference : Reference)
  | rule (selector : Text) (body : List Statement)
  | declaration (property : Text) (value : Expr)
  | verbatim (property value : Text)
  | defineFunction (name : Text)
  | comment (t : Text)

end StyleVars.Sass
