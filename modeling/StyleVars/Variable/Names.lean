import Std.Data.HashSet
import StyleVars.Variable.Token

/-
  The variable names one session has seen. Names are kept in the order of their first insertion,
  with an index for membership beside them; nothing is ever removed.
-/

namespace StyleVars

/-- Texts are hashed by their characters' numbers. -/
instance : Hashable Text := ⟨fun t => t.foldl (fun h c => mixHash h (hash c.toNat)) 7⟩

namespace Variable

/-- Names in the order of first insertion, and the same names as a set. -/
structure Names where
  ordered : Array Text
  index : Std.HashSet Text

namespace Names

/-- No names. -/
def empty : Names := ⟨#[], ∅⟩

/-- The names in the order of first insertion. -/
def toList (s : Names) : List Text := s.ordered.toList

/-- Is the name among them? -/
def contains (s : Names) (name : Text) : Bool := s.index.contains name

/-- How many names there are. -/
def size (s : Names) : Nat := s.ordered.size

/-- Adds a name, and says whether it is new. -/
def insert (s : Names) (name : Text) : Bool × Names :=
  if s.contains name then (false, s) else (true, ⟨s.ordered.push name, s.index.insert name⟩)

/-- Adds names one after the other, and counts the new ones. -/
def insertAll (s : Names) (names : List Text) : Nat × Names :=
  names.foldl (fun (n, s) name =>
    let (new, s) := s.insert name
    (if new then n + 1 else n, s)) (0, s)

/-- Adds every variable token of a text, and counts the new names. -/
def scrape (s : Names) (source : Text) : Nat × Names := s.insertAll (tokens source)

/-- The keys under which the names are reported, in order. -/
def keys (s : Names) : List Text := s.toList.map key

end Names

/-- The keys of the variable tokens of a text, each once, in order of first occurrence. -/
def scan (source : Text) : List Text := (Names.empty.scrape source).2.keys

end Variable
end StyleVars
