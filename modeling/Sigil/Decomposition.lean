import Sigil.Atom

/-!
Symbols as sequences of atoms. Both ways of splitting go from left to right and take the longest
atom at each place; a strict one refuses a character that begins no atom, a lenient one passes over
it.
-/

namespace Sigil

/-- Why a symbol is no sequence of atoms. A position is that of the first character that begins
none. -/
inductive DecompositionError
  | empty
  | unexpected (position : Nat)
  deriving DecidableEq, Repr

namespace Symbol

def strictFrom (position : Nat) : Text → Except DecompositionError (List Atom)
  | [] => .ok []
  | c :: cs =>
    match Atom.longest? (c :: cs) with
    | none => .error (.unexpected position)
    | some a => (strictFrom (position + a.length) (cs.drop (a.length - 1))).map (a :: ·)
termination_by cs => cs.length

def strict : Text → Except DecompositionError (List Atom)
  | [] => .error .empty
  | cs => strictFrom 0 cs

def lenient : Text → List Atom
  | [] => []
  | c :: cs =>
    match Atom.longest? (c :: cs) with
    | none => lenient cs
    | some a => a :: lenient (cs.drop (a.length - 1))
termination_by cs => cs.length

/-- How many characters the atoms of a symbol cover. -/
def covered (symbol : Text) : Nat := ((lenient symbol).flatMap Atom.text).length

/-- How far from the start of the symbol each of the atoms begins, when they are laid side by
side. -/
def offsets : Nat → List Atom → List Nat
  | _, [] => []
  | start, a :: as => start :: offsets (start + a.length) as

end Symbol

end Sigil
