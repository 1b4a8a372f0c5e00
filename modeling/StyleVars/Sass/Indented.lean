import StyleVars.Sass.Lexical

/-
  The indented syntax: lines instead of semicolons, indentation instead of braces. It is read by
  writing it out with semicolons and braces first.
-/

namespace StyleVars.Sass.Indented

/-- A line: its indentation, and the text after it. -/
structure Line where
  level : Nat
  text : Text

/-- The line without its indentation and the blanks at its end. -/
def Line.of (t : Text) : Line :=
  let body := t.dropWhile isBlank
  ⟨t.length - body.length, Text.dropEndWhile isBlank body⟩

/-- Closes the blocks that are indented deeper than a line: how many, and those that stay open. -/
def close (level : Nat) : List Nat → Text × List Nat
  | [] => ([], [])
  | l :: ls =>
    if level < l then ('\x7d' :: (close level ls).1, (close level ls).2) else ([], l :: ls)

/-- Writes out lines, given the indentations of the blocks that are open, innermost first. -/
def write : List Nat → List Line → Text
  | blocks, [] => List.replicate (blocks.length - 1) '\x7d'
  | blocks, l :: ls =>
    let (closing, blocks) := close l.level blocks
    match ls with
    | next :: _ =>
      if l.level < next.level then
        closing ++ l.text ++ '\x7b' :: write (next.level :: blocks) ls
      else closing ++ l.text ++ ';' :: '\n' :: write blocks ls
    | [] => closing ++ l.text ++ ';' :: '\n' :: write blocks ls

/-- Is the line a comment that is not passed on, or empty? -/
def isVoid (l : Line) : Bool := l.text.isEmpty || ['/', '/'].isPrefixOf l.text

/-- The sheet with semicolons and braces. -/
def withBraces (t : Text) : Text :=
  write [0] (((Text.splitAt '\n' t).map Line.of).filter fun l => !isVoid l)

end StyleVars.Sass.Indented
