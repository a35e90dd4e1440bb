import Sigil.Path
import Sigil.Text.Basic

namespace Sigil

/-- Where the text of a location comes from. Only a file always has a path. Toolchain locations
belong to tokens that no text holds. -/
inductive Source
  | file (path : Path)
  | string (path : Option Path)
  | toolchain (path : Option Path)
  | other (label : String) (path : Option Path)
  deriving DecidableEq, Repr

/-- The source with a label. There is none for a file without a path. -/
def Source.ofLabel? (label : String) (path : Option Path) : Option Source :=
  match label with
  | "file" => path.map .file
  | "string" => some (.string path)
  | "toolchain" => some (.toolchain path)
  | _ => some (.other label path)

def Source.label : Source → String
  | .file _ => "file"
  | .string _ => "string"
  | .toolchain _ => "toolchain"
  | .other label _ => label

def Source.path? : Source → Option Path
  | .file path => some path
  | .string path | .toolchain path | .other _ path => path

/-- A place in a text, counted from zero. -/
structure Location where
  line : Int
  column : Int
  source : Source
  deriving DecidableEq, Repr

namespace Location

def toolchain : Location := ⟨0, 0, .toolchain none⟩

/-- A place in a line of the source. All tokens made without a text share one location. -/
def inSource (source : Source) (line column : Nat) : Location :=
  match source with
  | .toolchain _ => toolchain
  | _ => ⟨line, column, source⟩

/-- A location without columns stays where it is. -/
def shift (l : Location) (columns : Int) : Location :=
  match l.source with
  | .toolchain _ => l
  | _ => { l with column := l.column + columns }

def named (l : Location) (name : String) : String :=
  "'" ++ name ++ ":" ++ toString (l.line + 1) ++ ":" ++ toString (l.column + 1) ++ "'"

/-- The text of a location counts lines and columns from one. A source of another kind is named by
its path; without one its locations have no text. -/
def render? (l : Location) : Option String :=
  match l.source with
  | .toolchain _ => some "'(punctum-toolchain-internals)'"
  | .string _ => some (l.named "<string>")
  | .file path => some (l.named path.name)
  | .other _ path => path.map fun p => l.named p.name

/-- The numbers of a location are short enough to be written. Those of a text always are. -/
def isWritable (l : Location) : Bool :=
  match l.source with
  | .toolchain _ => true
  | _ =>
    (l.line + 1).natAbs < Nat.pow 10 maxDigits && (l.column + 1).natAbs < Nat.pow 10 maxDigits

end Location

end Sigil
