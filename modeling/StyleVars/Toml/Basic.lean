import StyleVars.Text.Basic

/-
  TOML documents as trees. A table remembers how it came about, because that decides what may
  still be added to it: a header may turn a table that only exists as the parent of another into
  a proper one, but never reopen a table; dotted keys may extend the tables that dotted keys made,
  but not those of a header; an inline table is closed.
-/

namespace StyleVars.Toml

/-- How a table came about: by its own header, as the parent of a headed table, or by a dotted
key. -/
inductive Origin where
  | header
  | parent
  | dotted
deriving DecidableEq, Repr

/-- What a key stands for. Numbers and moments are checked for form and range only. -/
inductive Item where
  | string (t : Text)
  | boolean (b : Bool)
  | number
  | moment
  | array (items : List Item)
  | inlineTable (entries : List (Text × Item))
  | table (origin : Origin) (entries : List (Text × Item))
  | tables (elements : List (List (Text × Item)))

/-- The entries of a table. -/
abbrev Entries := List (Text × Item)

namespace Entries

/-- The entry of a key. -/
def get? (key : Text) (es : Entries) : Option Item := es.lookup key

/-- Replaces the entry of a key, or adds one. -/
def set (key : Text) (item : Item) : Entries → Entries
  | [] => [(key, item)]
  | (k, i) :: es => if k = key then (k, item) :: es else (k, i) :: set key item es

/-- Changes the table inside an item: a table itself, or the last one of a list of tables. -/
def within (f : Origin → Entries → Option Entries) : Item → Option Item
  | .table o es => (f o es).map (.table o)
  | .tables ts =>
    match ts.reverse with
    | [] => none
    | last :: before => (f .header last).map fun es => .tables (es :: before).reverse
  | _ => none

/-- Changes the table that a header's keys lead to; tables on the way are made if missing. -/
def underHeader (f : Entries → Option Entries) : List Text → Entries → Option Entries
  | [], es => f es
  | k :: ks, es =>
    match es.get? k with
    | none => (underHeader f ks []).map fun sub => es.set k (.table .parent sub)
    | some item => (within (fun _ sub => underHeader f ks sub) item).map (es.set k)

/-- Opens the table of a header. -/
def openTable (key : Text) (es : Entries) : Option Entries :=
  match es.get? key with
  | none => some (es.set key (.table .header []))
  | some (.table .parent sub) => some (es.set key (.table .header sub))
  | some _ => none

/-- Opens one more table in the list of tables of a header. -/
def openElement (key : Text) (es : Entries) : Option Entries :=
  match es.get? key with
  | none => some (es.set key (.tables [[]]))
  | some (.tables ts) => some (es.set key (.tables (ts ++ [[]])))
  | some _ => none

/-- Adds a new key. -/
def add (key : Text) (item : Item) (es : Entries) : Option Entries :=
  if (es.get? key).isSome then none else some (es.set key item)

/-- Adds a new key below dotted keys. The table it goes into must have been made by dotted keys,
and no table of a header may lie on the way. -/
def addDotted (key : Text) (item : Item) : Bool → List Text → Entries → Option Entries
  | mayEnd, [], es => if mayEnd then es.add key item else none
  | _, k :: ks, es =>
    match es.get? k with
    | none => (addDotted key item true ks []).map fun sub => es.set k (.table .dotted sub)
    | some (.table .header _) => none
    | some i =>
      (within (fun o sub => addDotted key item (o = .dotted) ks sub) i).map (es.set k)

/-- Adds a new key given by its dotted parts. -/
def addKey (parts : List Text) (item : Item) (es : Entries) : Option Entries :=
  match parts.reverse with
  | [] => none
  | key :: before => addDotted key item true before.reverse es

end Entries
end StyleVars.Toml
