import StyleVars.Error

/-
  What the library asks of a file system. Relative paths start from the working directory. A file
  holds either text or bytes that are no text; both can be read, only the first as text.
-/

namespace StyleVars

/-- The content of a file. -/
inductive Content where
  | text (t : Text)
  | binary (bytes : List UInt8)
deriving DecidableEq, Repr

namespace Content

/-- The text of a content, if it is one. -/
def text? : Content → Except FileError Text
  | .text t => .ok t
  | .binary _ => .error .notText

/-- Bytes as content: text exactly if they are valid UTF-8. -/
def ofBytes (bytes : ByteArray) : Content :=
  match String.fromUTF8? bytes with
  | some s => .text s.toList
  | none => .binary bytes.toList

end Content

/-- The answers of a file system at one moment. -/
structure FileSystem where
  workingDirectory : Path
  isFile : Path → Bool
  isDirectory : Path → Bool
  read : Path → Except FileError Content

namespace FileSystem

/-- The text in a file. -/
def readText (fs : FileSystem) (p : Path) : Except FileError Text := (fs.read p).bind Content.text?

end FileSystem
end StyleVars
