import Sigil.Error

namespace Sigil

/-- What a punctuation type can do beyond carrying locations. -/
inductive Capability
  | parsing
  | printing
  | clone
  | extraTraits
  deriving DecidableEq, Repr

def Capability.name : Capability → String
  | .parsing => "parsing"
  | .printing => "printing"
  | .clone => "clone"
  | .extraTraits => "extra-traits"

structure Features where
  parsing : Bool := true
  printing : Bool := true
  clone : Bool := true
  extraTraits : Bool := true
  deriving DecidableEq, Repr

namespace Features

/-- The enabled capabilities in the order in which types are composed of them. -/
def capabilities (f : Features) : List Capability :=
  (if f.parsing then [.parsing] else []) ++ (if f.printing then [.printing] else []) ++
    (if f.clone then [.clone] else []) ++ if f.extraTraits then [.extraTraits] else []

def enabled (f : Features) : List String := f.capabilities.map Capability.name

def set (f : Features) (key : String) (enabled : Bool) : Except Error Features :=
  match key with
  | "parsing" => .ok { f with parsing := enabled }
  | "printing" => .ok { f with printing := enabled }
  | "clone" => .ok { f with clone := enabled }
  | "extra_traits" => .ok { f with extraTraits := enabled }
  | _ => .error (.unknownFeature key)

/-- Settings by key over defaults; the first unknown key is refused. -/
def withSettings (f : Features) : List (String × Bool) → Except Error Features
  | [] => .ok f
  | (key, enabled) :: settings =>
    match f.set key enabled with
    | .error e => .error e
    | .ok g => g.withSettings settings

end Features

end Sigil
