import StyleVars.FileSystem
import StyleVars.Json.Reader
import StyleVars.Toml.Document

/-
  Configuration files, in JSON or TOML by the ending of their path. Four settings, each of which
  may be missing; other keys are ignored. In JSON a setting may be `null` but not repeated, and the
  settings may also be given as an array of exactly four values in order. The file is read before
  its ending is looked at.
-/

namespace StyleVars

/-- The settings of a configuration file. -/
structure Config where
  includeDirectories : Option (List Text) := none
  defaultExtension : Option Text := none
  pretty : Option Bool := none
  output : Option Text := none
deriving Repr

namespace Config

/-- The settings by name, in order. -/
inductive Setting where
  | includeDirectories
  | defaultExtension
  | pretty
  | output
deriving DecidableEq, Repr

namespace Setting

/-- All settings, in the order of the array form. -/
def all : List Setting := [includeDirectories, defaultExtension, pretty, output]

/-- The key of a setting. -/
def key : Setting → Text
  | includeDirectories => "include_directories".toList
  | defaultExtension => "default_extension".toList
  | pretty => "pretty".toList
  | output => "output".toList

/-- The setting with this key. -/
def ofKey? (k : Text) : Option Setting := all.find? fun s => s.key = k

end Setting

/-! ## JSON -/

/-- The text of a string value. -/
def stringOf? : Json → Option Text
  | .string t => some t
  | _ => none

/-- Sets a setting to a JSON value of its type, or to nothing for `null`. -/
def setJson (c : Config) (s : Setting) (v : Json) : Option Config :=
  match s, v with
  | .includeDirectories, .null => some { c with includeDirectories := none }
  | .includeDirectories, .array vs =>
    (vs.mapM stringOf?).map fun ts => { c with includeDirectories := some ts }
  | .defaultExtension, .null => some { c with defaultExtension := none }
  | .defaultExtension, .string t => some { c with defaultExtension := some t }
  | .pretty, .null => some { c with pretty := none }
  | .pretty, .bool b => some { c with pretty := some b }
  | .output, .null => some { c with output := none }
  | .output, .string t => some { c with output := some t }
  | _, _ => none

/-- The settings of an array with one value for each. -/
def ofArray (vs : List Json) : Option Config :=
  if vs.length = Setting.all.length then
    (Setting.all.zip vs).foldlM (fun c (s, v) => c.setJson s v) {}
  else none

/-- Takes blanks and then a fixed character. -/
def expectMark (c : Char) : Reader Unit := do
  modify Json.dropBlanks
  Reader.expect [c]

/-- The fields of an object after its opening brace, up to the closing one. A field that is no
setting only has to be well formed. `seen` holds the settings read so far. -/
def jsonFields : Nat → Config → List Setting → Reader Config
  | 0, _, _ => failure
  | n + 1, c, seen => do
    expectMark '"'
    let k ← Reader.of (Json.stringRest none)
    expectMark ':'
    let t ← get
    let (c, seen) ← match Setting.ofKey? k with
      | some s => do
        Reader.require (!seen.contains s)
        let v ← Reader.of (Json.value (Json.stepsFor t) Json.nestingLimit)
        pure (← liftM (c.setJson s v), s :: seen)
      | none => do
        Reader.of fun t => (Json.skip (Json.stepsFor t) t).map ((), ·)
        pure (c, seen)
    modify Json.dropBlanks
    if ← Reader.accept [','] then jsonFields n c seen
    else do
      Reader.expect ['\x7d']
      return c

/-- The settings of a JSON text. -/
def readJson : Reader Config := do
  modify Json.dropBlanks
  let t ← get
  let c ←
    if ← Reader.accept ['\x7b'] then do
      modify Json.dropBlanks
      if ← Reader.accept ['\x7d'] then pure {} else jsonFields t.length {} []
    else do
      match ← Reader.of (Json.value (Json.stepsFor t) Json.nestingLimit) with
      | .array vs => liftM (ofArray vs)
      | _ => failure
  modify Json.dropBlanks
  return c

/-! ## TOML -/

/-- The text of a string item. -/
def stringItem? : Toml.Item → Option Text
  | .string t => some t
  | _ => none

/-- Sets a setting to a TOML item of its type. -/
def setToml (c : Config) (s : Setting) (i : Toml.Item) : Option Config :=
  match s, i with
  | .includeDirectories, .array is =>
    (is.mapM stringItem?).map fun ts => { c with includeDirectories := some ts }
  | .defaultExtension, .string t => some { c with defaultExtension := some t }
  | .pretty, .boolean b => some { c with pretty := some b }
  | .output, .string t => some { c with output := some t }
  | _, _ => none

/-- The settings of a TOML text. -/
def ofToml? (t : Text) : Option Config :=
  (Toml.read? t).bind fun root =>
    Setting.all.foldlM (fun c s =>
      match Toml.Entries.get? s.key root with
      | some i => setToml c s i
      | none => some c) {}

/-! ## Files -/

/-- The settings in the text of the configuration file with this path. -/
def ofText (path t : Text) : Except FormatError Config :=
  if (Text.stripSuffix? ".json".toList path).isSome then
    (readJson.whole? t).elim (.error .jsonConfig) .ok
  else if (Text.stripSuffix? ".toml".toList path).isSome then
    (ofToml? t).elim (.error .tomlConfig) .ok
  else .error .unknownConfigKind

/-- The settings of the configuration file with this path. -/
def load (fs : FileSystem) (path : Text) : Except ExtractError Config :=
  match fs.readText ⟨path⟩ with
  | .error e => .error (.inputOutput (.config path e))
  | .ok t => (ofText path t).mapError .invalidFormat

end Config
end StyleVars
