namespace Sigil

/-- A file path in normal form: the slashes it begins with (none, one, or exactly two), and its
parts without empty ones and single dots. -/
structure Path where
  root : String
  parts : List String
  deriving DecidableEq, Repr

namespace Path

/-- Two leading slashes are kept apart from one; three or more count as one. -/
def rootOf (leading : Nat) : String :=
  match leading with
  | 0 => ""
  | 2 => "//"
  | _ => "/"

def ofString (s : String) : Path where
  root := rootOf (s.toList.takeWhile (· = '/')).length
  parts := (s.splitOn "/").filter fun part => part ≠ "" && part ≠ "."

def toString (p : Path) : String :=
  if p.root = "" ∧ p.parts = [] then "." else p.root ++ "/".intercalate p.parts

/-- The last part; a path without parts has no name. -/
def name (p : Path) : String := p.parts.getLast?.getD ""

end Path

end Sigil
