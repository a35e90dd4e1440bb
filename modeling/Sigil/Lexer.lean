import Sigil.Error
import Sigil.Lexeme
import Sigil.Text.Lines

/-!
Lexical analysis, line by line and from left to right. It stops at the first error, and the tokens
found before that stay part of the result.
-/

namespace Sigil

/-- The tokens found, and the error that stopped the search, if any. -/
structure Run where
  tokens : List Token
  error : Option Error

namespace Run

def cons (t : Token) (r : Run) : Run := ⟨t :: r.tokens, r.error⟩

def stop (e : Error) : Run := ⟨[], some e⟩

def andThen (r s : Run) : Run :=
  match r.error with
  | some e => ⟨r.tokens, some e⟩
  | none => ⟨r.tokens ++ s.tokens, s.error⟩

def toExcept (r : Run) : Except Error (List Token) :=
  match r.error with
  | some e => .error e
  | none => .ok r.tokens

end Run

namespace Lexer

def error (l : Location) : LexicalFault → Error
  | .unknown offset c => .unknownCharacter (l.shift offset) [c]
  | .unclosed => .unclosedQuote l
  | .undecodable e => .undecodable e
  | .longInteger digits => .longInteger digits

/-- A blank or the end of the line comes next. -/
def trailing (cs : Text) : Bool := cs.head?.all Text.isBlank

/-- The tokens of a line from the given column on, where `cs` is left. -/
def line (place : Nat → Location) (column : Nat) : Text → Run
  | [] => ⟨[], none⟩
  | c :: cs =>
    if Text.isBlank c then line place (column + 1) cs
    else match Lexeme.scan c cs with
      | .error fault => .stop (error (place column) fault)
      | .ok l =>
        let rest := cs.drop l.more.length
        (line place (column + 1 + l.more.length) rest).cons
          ⟨l.kind, c :: l.more, l.value, place column, trailing rest⟩
termination_by cs => cs.length

/-- The tokens of the lines from the given row on. The end of input lies where the line before it
ended. -/
def lines (source : Source) (row : Nat) (ending : Location) : List Text → Run
  | [] => ⟨[.endOfInput ending], none⟩
  | l :: ls =>
    let text := Text.stripReturns l
    (line (.inSource source row) 0 text).andThen
      (lines source (row + 1) (.inSource source row text.length) ls)

end Lexer

/-- The tokens of raw lines, of which each may still have its line end. -/
def lexLines (source : Source) (ls : List Text) : Run :=
  Lexer.lines source 0 (.inSource source 0 0) ls

def lexText (text : Text) : Run := lexLines (.string none) (Text.inputLines text)

/-- All tokens of a text that belongs to no file. -/
def tokenize (text : Text) : Except Error (List Token) := (lexText text).toExcept

/-- A token as a line of debug output. Tokens of a text always have a location with a text. -/
def Token.dump (t : Token) : String :=
  t.kind.name ++ " " ++ t.value.render ++ " " ++ Error.placeOf t.location

end Sigil
