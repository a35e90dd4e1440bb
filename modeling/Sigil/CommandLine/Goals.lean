import Sigil.CommandLine.Help
import Sigil.CommandLine.Report
import Sigil.CommandLine.Settings
import Sigil.Stream

/-!
What the command line does: it declares the symbol, checks the declared type against an input if
there is one, or shows version information instead.
-/

namespace Sigil.CommandLine

/-- Names of the machine and of the language implementation that a program runs on. -/
structure Host where
  platform : String
  implementation : String

def truth (b : Bool) : String := if b then "True" else "False"

def orNone (names : List String) : String := if names = [] then "none" else ", ".intercalate names

/-- The tokens from a cursor on, before the first end of input. -/
def upcoming (c : Cursor) : List Token :=
  (c.buffer.tokens.drop (resolveBound c.buffer.tokens.length c.position)).takeWhile (·.kind ≠ .eof)

def restOf (s : Stream) : String := Text.quoted (Output.toSource (upcoming s.cursor))

/-- What is shown of an instance that was parsed, and of the input after it. -/
def parsedReport (features : Features) (i : Instance) (s : Stream) : Report :=
  let found :=
    line ("\tParsed at: " ++ ", ".intercalate (i.locations.map Error.placeOf)) ++
      line ("\tRest: " ++ restOf s)
  if features.printing then
    match i.toTokens [] with
    | .error e => (Report.raise e).after found ""
    | .ok out =>
      let printed := line ("\tPrinted: " ++ String.ofList (Output.toSource out))
      (Report.exit 0).after (found ++ printed) ""
  else (Report.exit 0).after found ""

/-- Peeks and parses at the beginning of a stream. -/
def checkStream (terminal : Bool) (features : Features) (p : Punctuation) (s : Stream) : Report :=
  match s.peek (.type p) with
  | .error e => .raise e
  | .ok found =>
    let report : Report := match p.parse s with
      | .ok (i, rest) => parsedReport features i rest
      | .error (.parse message got) =>
        match (Error.parse message got).flaw? with
        | some flaw => .raise flaw
        | none => abort terminal (Error.parse message got).message
      | .error e => .raise e
    report.after (line ("\tPeek: " ++ truth found)) ""

/-- Lexes an input whole before it looks at its beginning. -/
def checkInput (terminal : Bool) (settings : Settings) (p : Punctuation) (input : Text) : Report :=
  let run : Run := lexText input
  let report : Report := match run.toExcept.bind (Stream.ofTokens 0) with
    | .error e => .raise e
    | .ok s => checkStream terminal settings.features p s
  let dump := String.join (run.tokens.map fun t => line t.dump)
  report.after (if settings.dumpTokens then dump else "") ""

def check (terminal : Bool) (settings : Settings) (p : Punctuation) (input : Option Text) :
    Report :=
  if settings.features.parsing then
    match input with
    | none => .raise (.notText "splitlines")
    | some input => checkInput terminal settings p input
  else abort terminal (p.name ++ " has no parsing, cannot check it against input")

def declareSymbol (terminal : Bool) (settings : Settings) (symbol : Text) : Report :=
  match settings.name with
  | none => .raise (.notText "isidentifier")
  | some name =>
    match Punctuation.declare 0 (String.ofList name) symbol settings.features
      (Punctuation.moduleOfCaller none) with
    | .error e => .raise e
    | .ok p =>
      let report : Report := match settings.input with
        | none => .exit 0
        | some input => check terminal settings p input
      let info := "Declared " ++ p.name ++ " with features: " ++ orNone settings.features.enabled
      report.after
        (line (p.name ++ " `" ++ String.ofList p.symbol ++ "`") ++
          line ("\tAtoms: " ++ " ".intercalate (p.atoms.map fun a => String.ofList a.text)) ++
          line ("\tLocations: " ++ toString p.length))
        (if settings.verbose then Level.info.message terminal info else "")

/-- The features that a program is built with are all there; those of a run follow its settings. -/
def showVersion (host : Host) (settings : Settings) : Report :=
  (Report.exit 0).after
    (String.join (
      [ "[Punctum toolchain]",
        "Host machine:",
        "\tPlatform: " ++ host.platform,
        "\tPython: " ++ host.implementation,
        "Punctuation atoms:",
        "\t" ++ " ".intercalate (Atom.table.map fun a => String.ofList a.text),
        "Features:",
        "\tFEATURE_PARSING = True",
        "\tFEATURE_PRINTING = True",
        "\tFEATURE_CLONE_IMPLS = True",
        "\tFEATURE_EXTRA_TRAITS = True",
        "\t(enabled for this invocation: " ++ orNone settings.features.enabled ++ ")"
      ].map line)) ""

def perform (host : Host) (terminal : Bool) (settings : Settings) : Report :=
  if settings.version then showVersion host settings
  else match settings.symbol with
    | none => abort terminal "No punctuation symbol specified, has nothing to declare"
    | some symbol => declareSymbol terminal settings symbol

/-- A whole run of the command line. Capabilities are enabled by default as given. -/
def run (host : Host) (terminal : Bool) (features : Features) (words : List Text) : Report :=
  match Settings.ofWords features words with
  | .error .help => ⟨help, "", .exit 0⟩
  | .error (.usage message) => ⟨"", usage ++ line ("punctum: error: " ++ message), .exit 2⟩
  | .ok settings => handle settings.friendly terminal (perform host terminal settings)

end Sigil.CommandLine
