import Sigil.Datum
import Sigil.Decomposition
import Sigil.Text.Escape
import Sigil.Text.Kebab
import Sigil.Text.UpperCase
import Sigil.Token

/-!
Everything that can go wrong. The causes that have a title are written for the user, with a tag that
names them; the others say that an operation was used where it cannot be.
-/

namespace Sigil

inductive Error
  | emptySymbol
  | unexpectedPunctuation (symbol : Text) (position : Int)
  | invalidName (name : String) (symbol : Text)
  | unknownCharacter (location : Location) (character : Text)
  | unclosedQuote (location : Location)
  | parse (message : String) (got : Token)
  | undocumented (arguments : List Datum)
  | undocumentedDeclaration (arguments : List Datum)
  | undecodable (e : Escape.Error)
  | longInteger (digits : Nat)
  | atomLength
  | missingPath
  | countsDisagree
  | emptyBuffer
  | unendedBuffer
  | otherBuffer
  | backwards
  | locationPerAtom
  | beyondTokens
  | beyondSymbol
  | oversizedIndex
  | oversizedCount
  | outOfMemory
  | longNumber
  | notLocations (given : Datum)
  | locationCount (expected : Int) (given : Nat)
  | strayLocation
  | absentFromType (type member : String)
  | absentFromInstance (type member : String)
  | unhashable (type : String)
  | immutableAssign (type field : String)
  | immutableDelete (type field : String)
  | unknownFeature (key : String)
  | unknownLevel (level : String)
  | notText (operation : String)
  | foreign (message : String)
  /-- A loop of a parse function left its stream where it was, so it would never end. -/
  | stalled

namespace Error

def title? : Error → Option String
  | .emptySymbol => some "EmptyPunctuationSymbolError"
  | .unexpectedPunctuation .. => some "UnexpectedPunctuationError"
  | .invalidName .. => some "InvalidPunctuationNameError"
  | .unknownCharacter .. => some "UnknownCharacterError"
  | .unclosedQuote _ => some "UnclosedStringQuoteError"
  | .parse .. => some "ParseError"
  | .undocumented _ => some "PunctumError"
  | .undocumentedDeclaration _ => some "PunctuationDeclarationError"
  | _ => none

/-- An error written for the user, who is shown its message only. -/
def isReported (e : Error) : Bool := e.title?.isSome

/-- A declaration cannot be turned into a token type. -/
def isDeclaration : Error → Bool
  | .emptySymbol | .unexpectedPunctuation .. | .invalidName .. | .undocumentedDeclaration _ => true
  | _ => false

def tagOf (title : String) : String := "[" ++ String.ofList (Text.kebab title.toList) ++ "]"

def tag (e : Error) : String := tagOf (e.title?.getD "")

def ofDecomposition (symbol : Text) : DecompositionError → Error
  | .empty => .emptySymbol
  | .unexpected position => .unexpectedPunctuation symbol position

/-- The symbol from an unexpected character on. -/
def remainder (symbol : Text) (position : Int) : Text :=
  symbol.drop (resolveBound symbol.length position)

/-- The location that an error shows. -/
def location? : Error → Option Location
  | .unknownCharacter l _ | .unclosedQuote l => some l
  | .parse _ got => some got.location
  | _ => none

/-- What goes wrong in marking a position that is not in its symbol. The mark is moved there before
the character is looked up. -/
def ofPosition (position : Int) : Error :=
  if !isIndex position then .oversizedCount
  else if (memoryLimit : Int) < position then .outOfMemory
  else .beyondSymbol

/-- What goes wrong in writing an error whose parts do not fit together. -/
def flaw? (e : Error) : Option Error :=
  match e with
  | .unexpectedPunctuation symbol position =>
    if (resolveIndex symbol.length position).isSome then none else some (ofPosition position)
  | _ => if e.location?.all (·.render?.isSome) then none else some .missingPath

/-- What goes wrong in writing an error whose location was stated and not found in a text. -/
def statedFlaw? (e : Error) : Option Error :=
  e.flaw?.or (if e.location?.all Location.isWritable then none else some .longNumber)

def placeOf (l : Location) : String := l.render?.getD ""

def undocumentedMessage (title : String) (arguments : List Datum) : String :=
  let call := title ++ "(" ++ ", ".intercalate (arguments.map Datum.render) ++ ")"
  "Some internal error occurred (" ++ call ++ "), that is currently not documented"

def ofLines (ls : List String) : String := "\n".intercalate ls

def message (e : Error) : String :=
  match e with
  | .emptySymbol =>
    ofLines
      [ "Empty punctuation symbol!",
        "",
        "Expected at least one punctuation character in declaration but got nothing!",
        "",
        e.tag ]
  | .unexpectedPunctuation symbol position =>
    let whole := String.ofList symbol
    let rest := remainder symbol position
    ofLines
      [ "Unexpected `" ++ String.ofList (rest.take 1) ++ "` in punctuation `" ++ whole ++
          "` at offset " ++ toString position ++ "!",
        "",
        "    " ++ whole,
        "    " ++ String.ofList (List.replicate position.toNat ' ') ++ "^",
        "Cannot decompose remaining `" ++ String.ofList rest ++ "` into known punctuation atoms.",
        "Only punctuation of the host grammar may be combined (e.g `<=`, `::`, `->`).",
        "",
        e.tag ]
  | .invalidName name symbol =>
    ofLines
      [ "Invalid name '" ++ name ++ "' for punctuation `" ++ String.ofList symbol ++ "`!",
        "",
        "Name of an punctuation token type must be an valid identifier (e.g `LeftRightArrow`).",
        "",
        e.tag ]
  | .unknownCharacter l character =>
    ofLines
      [ "Unknown character '" ++ String.ofList character ++ "' at " ++ placeOf l ++ "!",
        "",
        "Character is neither punctuation, delimiter, identifier, number nor string.",
        "",
        e.tag ]
  | .unclosedQuote l =>
    ofLines
      [ "Unclosed string quote at " ++ placeOf l ++ "!",
        "",
        "Did you forgot to close string or mistyped string quote?",
        "Multi-line strings are prohibited, if this was your intention",
        "",
        e.tag ]
  | .parse message got =>
    let text := if got.text = [] then "end of input" else "`" ++ String.ofList got.text ++ "`"
    ofLines
      [ String.ofList (Text.capitalize message.toList) ++ " but got " ++ text ++ " at " ++
          placeOf got.location ++ "!",
        "",
        e.tag ]
  | .undocumented arguments | .undocumentedDeclaration arguments =>
    undocumentedMessage (e.title?.getD "") arguments
  | .undecodable reason => reason.message
  | .longInteger digits =>
    "Exceeds the limit (4300 digits) for integer string conversion: value has " ++
      toString digits ++ " digits; use sys.set_int_max_str_digits() to increase the limit"
  | .atomLength => "Atom length must match its text"
  | .missingPath => ""
  | .countsDisagree => "Lenient and strict decomposition must agree on valid symbols"
  | .emptyBuffer => "Tokens buffer must contain at least EOF token"
  | .unendedBuffer => "Tokens buffer must end with EOF token"
  | .otherBuffer => "Cannot advance to cursor of another buffer"
  | .backwards => "Cannot advance stream backwards"
  | .locationPerAtom => "Expected one location per punctuation atom"
  | .beyondTokens => "list index out of range"
  | .beyondSymbol => "string index out of range"
  | .oversizedIndex | .oversizedCount => "cannot fit 'int' into an index-sized integer"
  | .outOfMemory => ""
  | .longNumber =>
    "Exceeds the limit (4300 digits) for integer string conversion; " ++
      "use sys.set_int_max_str_digits() to increase the limit"
  | .notLocations given =>
    "Expected an location or sequence of locations, but got " ++ given.typeName
  | .locationCount expected given =>
    "Expected exactly " ++ toString expected ++ " locations (one per punctuation atom), but got " ++
      toString given
  | .strayLocation => "Expected every location to be an TokenLocation"
  | .absentFromType type member =>
    "type object '" ++ type ++ "' has no attribute '" ++ member ++ "'"
  | .absentFromInstance type member => "'" ++ type ++ "' object has no attribute '" ++ member ++ "'"
  | .unhashable type => "unhashable type: '" ++ type ++ "'"
  | .immutableAssign type field => "Cannot assign '" ++ field ++ "', " ++ type ++ " is immutable"
  | .immutableDelete type field => "Cannot delete '" ++ field ++ "', " ++ type ++ " is immutable"
  | .unknownFeature key =>
    "PunctuationFeatures.__init__() got an unexpected keyword argument '" ++ key ++ "'"
  | .unknownLevel level => Text.quoted level.toList
  | .notText operation => "'list' object has no attribute '" ++ operation ++ "'"
  | .foreign message => message
  | .stalled => "Parsing loop does not advance"

end Error

end Sigil
