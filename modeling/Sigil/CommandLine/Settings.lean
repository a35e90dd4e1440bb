import Sigil.Features
import Sigil.Text.Decimal

/-!
The words of a command line and the settings they make. A word that stands alone as two hyphens is
the separator: no option comes after it. A value that is only the separator is dropped, which leaves
its option without a value.
-/

namespace Sigil.CommandLine

/-- What a command line asks for. A name or an input without a value is `none`. -/
structure Settings where
  symbol : Option Text := none
  name : Option Text := some "CustomPunctuation".toList
  input : Option (Option Text) := none
  version : Bool := false
  features : Features
  verbose : Bool := false
  dumpTokens : Bool := false
  friendly : Bool := true
  deriving DecidableEq

inductive Flag
  | help
  | version
  | name
  | input
  | noParsing
  | noPrinting
  | noClone
  | noExtraTraits
  | verbose
  | dumpTokens
  | unfriendly
  deriving DecidableEq, Repr

namespace Flag

def all : List Flag :=
  [.help, .version, .name, .input, .noParsing, .noPrinting, .noClone, .noExtraTraits, .verbose,
    .dumpTokens, .unfriendly]

def spellings : Flag → List String
  | .help => ["-h", "--help"]
  | .version => ["--version"]
  | .name => ["--name", "-n"]
  | .input => ["--input", "-i"]
  | .noParsing => ["--no-parsing"]
  | .noPrinting => ["--no-printing"]
  | .noClone => ["--no-clone"]
  | .noExtraTraits => ["--no-extra-traits"]
  | .verbose => ["--verbose", "-v"]
  | .dumpTokens => ["--lexer-debug-emit-lexemes"]
  | .unfriendly => ["--cli-unfriendly-errors"]

def title (f : Flag) : String := "/".intercalate f.spellings

def takesValue : Flag → Bool
  | .name | .input => true
  | _ => false

def ofSpelling? (word : Text) : Option Flag :=
  all.find? fun f => f.spellings.any fun s => s.toList = word

end Flag

/-- What a word of the command line is. An option may have its value, or more short options, in the
same word. -/
inductive Word
  | argument
  | separator
  | option (f : Flag) (short : Bool) (attached : Option Text)
  | unknown
  deriving DecidableEq, Repr

namespace Word

/-- A hyphen and decimal digits, of which the last ones may follow a point; one line end may come
after them. -/
def isNegativeNumber (word : Text) : Bool :=
  match word with
  | '-' :: digits =>
    let digits := if digits.getLast? = some '\n' then digits.dropLast else digits
    match digits.dropWhile Text.isDecimalDigit with
    | [] => digits ≠ []
    | '.' :: places => places ≠ [] && places.all Text.isDecimalDigit
    | _ => false
  | _ => false

/-- The part of a word before its first equals sign, and the part after it. -/
def splitValue? (word : Text) : Option (Text × Text) :=
  match word.dropWhile (· ≠ '=') with
  | [] => none
  | _ :: value => some (word.takeWhile (· ≠ '='), value)

/-- A word with a hyphen in front that names no option. Numbers and words with a space are arguments
all the same. -/
def unnamed (word : Text) : Word :=
  if isNegativeNumber word ∨ ' ' ∈ word then .argument else .unknown

/-- A single hyphen and a letter may name a short option with more attached to it. -/
def attachedShort (word : Text) : Word :=
  match word with
  | '-' :: c :: rest =>
    if c = '-' then unnamed word
    else match Flag.ofSpelling? ['-', c] with
      | some f => .option f true (some rest)
      | none => unnamed word
  | _ => .argument

def isShort (spelling : Text) : Bool := spelling.take 2 ≠ ['-', '-']

def classify (word : Text) : Word :=
  if word.head? ≠ some '-' then .argument
  else match Flag.ofSpelling? word with
    | some f => .option f (isShort word) none
    | none =>
      match splitValue? word with
      | none => attachedShort word
      | some (spelling, value) =>
        match Flag.ofSpelling? spelling with
        | some f => .option f (isShort spelling) (some value)
        | none => attachedShort word

def classifyAll : List Text → List (Text × Word)
  | [] => []
  | word :: words =>
    if word = ['-', '-'] then (word, .separator) :: words.map (·, .argument)
    else (word, classify word) :: classifyAll words

end Word

/-- Why a command line has no settings: it asks for help, or it is refused with a message. -/
inductive Refusal
  | help
  | usage (message : String)
  deriving DecidableEq, Repr

namespace Settings

/-- A value that is only the separator is dropped. -/
def value (v : Text) : Option Text := if v = ['-', '-'] then none else some v

def apply (s : Settings) (f : Flag) (v : Text) : Except Refusal Settings :=
  match f with
  | .help => .error .help
  | .version => .ok { s with version := true }
  | .name => .ok { s with name := value v }
  | .input => .ok { s with input := some (value v) }
  | .noParsing => .ok { s with features := { s.features with parsing := false } }
  | .noPrinting => .ok { s with features := { s.features with printing := false } }
  | .noClone => .ok { s with features := { s.features with clone := false } }
  | .noExtraTraits => .ok { s with features := { s.features with extraTraits := false } }
  | .verbose => .ok { s with verbose := true }
  | .dumpTokens => .ok { s with dumpTokens := true }
  | .unfriendly => .ok { s with friendly := false }

def applyAll (s : Settings) : List (Flag × Text) → Except Refusal Settings
  | [] => .ok s
  | (f, v) :: fs =>
    match s.apply f v with
    | .error r => .error r
    | .ok s => s.applyAll fs

def refuse (f : Flag) (message : String) : Refusal :=
  .usage ("argument " ++ f.title ++ ": " ++ message)

/-- The options in one word that has something attached. Short options without a value may stand
together. -/
def attached (f : Flag) (short : Bool) (rest : Text) :
    Except Refusal (List (Flag × Text) × Option Flag) :=
  if f.takesValue then .ok ([(f, rest)], none)
  else
    let refusal := refuse f ("ignored explicit argument " ++ Text.quoted rest)
    match rest with
    | [] => .error refusal
    | c :: more =>
      if short then
        match Flag.ofSpelling? ['-', c] with
        | none => .error refusal
        | some g =>
          if more = [] then .ok ([(f, [])], some g)
          else (attached g true more).map fun (fs, last) => ((f, []) :: fs, last)
      else .error refusal

/-- The options of a word, the last of which takes its value from the next word if it needs one. The
number says how many words that are. -/
def options (f : Flag) (short : Bool) (rest : Option Text) (next : List (Text × Word)) :
    Except Refusal (List (Flag × Text) × Nat) :=
  let opened : Except Refusal (List (Flag × Text) × Option Flag) :=
    match rest with
    | none => .ok ([], some f)
    | some rest => attached f short rest
  match opened with
  | .error r => .error r
  | .ok (fs, none) => .ok (fs, 0)
  | .ok (fs, some g) =>
    if g.takesValue then
      match next with
      | (v, .argument) :: _ => .ok (fs ++ [(g, v)], 1)
      | _ => .error (refuse g "expected one argument")
    else .ok (fs ++ [(g, [])], 0)

/-- The words that the symbol takes: one argument, and a separator before or after it. -/
def symbolWords : List (Text × Word) → Option Text × Nat
  | (_, .separator) :: (v, .argument) :: _ => (some v, 2)
  | (_, .separator) :: _ => (none, 1)
  | (v, .argument) :: (_, .separator) :: _ => (some v, 2)
  | (v, .argument) :: _ => (some v, 1)
  | _ => (none, 0)

/-- Reads the words from left to right. The first words that belong to no option are the symbol's;
all later ones, and unknown options, are left over. -/
def read (s : Settings) (symbolRead : Bool) (extras : List Text) :
    List (Text × Word) → Except Refusal Settings
  | [] =>
    if extras = [] then .ok s
    else .error (.usage ("unrecognized arguments: " ++ " ".intercalate (extras.map String.ofList)))
  | (word, .unknown) :: words => s.read symbolRead (extras ++ [word]) words
  | (_, .option f short rest) :: words =>
    match options f short rest words with
    | .error r => .error r
    | .ok (fs, used) =>
      match s.applyAll fs with
      | .error r => .error r
      | .ok s => s.read symbolRead extras (words.drop used)
  | (word, kind) :: words =>
    if symbolRead then s.read true (extras ++ [word]) words
    else
      let (symbol, used) := symbolWords ((word, kind) :: words)
      { s with symbol }.read true extras (words.drop (used - 1))
termination_by words => words.length

/-- The settings that a command line makes, with the given capabilities as default. -/
def ofWords (features : Features) (words : List Text) : Except Refusal Settings :=
  ({ features } : Settings).read false [] (Word.classifyAll words)

end Settings

end Sigil.CommandLine
