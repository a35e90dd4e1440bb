import Sigil.Output
import Sigil.Punctuation

namespace Sigil

/-- What an instance may be built from. Entries of a list that are no locations are `none`. -/
inductive Placement
  | one (l : Location)
  | many (ls : List (Option Location))
  | other (given : Datum)

/-- One location for each of `count` atoms: a single one serves them all, several have to be exactly
that many. -/
def Placement.locations : Placement → Int → Except Error (List Location)
  | .one l, count => .ok (List.replicate count.toNat l)
  | .many ls, count =>
    if (ls.length : Int) = count then
      match ls.mapM id with
      | some ls => .ok ls
      | none => .error .strayLocation
    else .error (.locationCount count ls.length)
  | .other given, _ => .error (.notLocations given)

/-- The locations for a count that was stated. Copies of a location have to fit into memory, eight
bytes each; the atoms of a type always do. -/
def Placement.locationsFor (p : Placement) (count : Int) : Except Error (List Location) :=
  match p with
  | .one _ =>
    if !isIndex count then .error .oversizedCount
    else if memoryLimit < 8 * count then .error .outOfMemory
    else p.locations count
  | _ => p.locations count

/-- An occurrence of a punctuation type. Its locations are never changed. -/
structure Instance where
  type : Punctuation
  locations : List Location
  deriving DecidableEq

namespace Instance

/-- Without a placement all atoms are at the toolchain location. -/
def build (type : Punctuation) (placement : Option Placement) : Except Error Instance :=
  ((placement.getD (.one .toolchain)).locations type.length).map (⟨type, ·⟩)

def location? (i : Instance) : Option Location := i.locations.head?

def require (i : Instance) (enabled : Features → Bool) (member : String) : Except Error Unit :=
  if enabled i.type.features then .ok () else .error (.absentFromInstance i.type.name member)

def toTokens (i : Instance) (out : Output) : Except Error Output := do
  i.require Features.printing "to_tokens"
  out.printPunct i.type.symbol i.locations

def toSource (i : Instance) : Except Error Text := do
  i.require Features.printing "to_source"
  return Output.toSource (← i.toTokens [])

def clone (i : Instance) : Except Error Instance := do
  i.require Features.clone "clone"
  build i.type (some (.many (i.locations.map some)))

/-- A copy without the clone capability would have to assign the locations of a new instance. -/
def copy (i : Instance) : Except Error Instance :=
  if i.type.features.clone then i.clone else .error (.immutableAssign i.type.name "_locations")

/-- The text of an instance, which only the extra traits give it. -/
def text? (i : Instance) : Option Text :=
  if i.type.features.extraTraits then some i.type.symbol else none

/-- What an instance itself says about its equality with another, of which `same` says that they
are one. With the extra traits all instances of its type are equal to it; without them only itself
is. -/
def answer (same : Bool) (i j : Instance) : Option Bool :=
  if i.type.features.extraTraits then if j.type = i.type then some true else none
  else if same then some true else none

/-- Equality asks both sides; where neither has an answer, only identity counts. -/
def equal (same : Bool) (i j : Instance) : Bool :=
  ((answer same i j).or (answer same j i)).getD same

/-- Instances are hashed by their type. -/
def hashKey (i : Instance) : Except Error Nat :=
  if i.type.features.extraTraits then .ok i.type.serial else .error (.unhashable i.type.name)

/-- The size of a set that holds the instances. -/
def setSize (is : List Instance) : Except Error Nat :=
  (is.mapM hashKey).map fun keys => keys.eraseDups.length

end Instance

namespace Output

/-- Prints instances in order, up to the first that cannot be printed. -/
def extend (out : Output) : List Instance → Output × Option Error
  | [] => (out, none)
  | i :: is =>
    match i.toTokens out with
    | .error e => (out, some e)
    | .ok out => extend out is

end Output

end Sigil
