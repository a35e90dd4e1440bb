import Sigil.Error

namespace Sigil.CommandLine

inductive Ending
  | finished
  | exit (code : Nat)
  | raised (e : Error)
  | interrupted

/-- What a run wrote on its two outputs, and how it ended. -/
structure Report where
  out : String
  err : String
  ending : Ending

namespace Report

def exit (code : Nat) : Report := ⟨"", "", .exit code⟩

def raise (e : Error) : Report := ⟨"", "", .raised e⟩

/-- The report of a run that wrote something before. -/
def after (r : Report) (out err : String) : Report := ⟨out ++ r.out, err ++ r.err, r.ending⟩

end Report

def line (s : String) : String := s ++ "\n"

inductive Level
  | info
  | warning
  | error
  | success
  deriving DecidableEq, Repr

namespace Level

def name : Level → String
  | .info => "INFO"
  | .warning => "WARNING"
  | .error => "ERROR"
  | .success => "SUCCESS"

def color : Level → String
  | .info => "\x1b[34m"
  | .warning => "\x1b[33m"
  | .error => "\x1b[31m"
  | .success => "\x1b[32m"

def ofName? (name : String) : Option Level :=
  [Level.info, .warning, .error, .success].find? fun l => l.name = name

/-- A message with its level in brackets, which a terminal shows in color. -/
def message (l : Level) (terminal : Bool) (text : String) : String :=
  let mark := "[" ++ l.name ++ "]"
  line ((if terminal then l.color ++ mark ++ "\x1b[0m" else mark) ++ " " ++ text)

/-- A message of a level given by name. Only a terminal has to know the level. -/
def messageOf (name : String) (terminal : Bool) (text : String) : Except Error String :=
  match ofName? name with
  | some l => .ok (l.message terminal text)
  | none =>
    if terminal then .error (.unknownLevel name) else .ok (line ("[" ++ name ++ "] " ++ text))

end Level

/-- A message of a level given by name; a silenced one is not looked at. -/
def announce (name : String) (verbose terminal : Bool) (text : String) : Report :=
  if verbose then
    match Level.messageOf name terminal text with
    | .error e => .raise e
    | .ok s => ⟨"", s, .finished⟩
  else ⟨"", "", .finished⟩

/-- Ends a run with an error message. -/
def abort (terminal : Bool) (text : String) : Report :=
  ⟨"", Level.error.message terminal text, .exit 1⟩

/-- Runs that are to end by themselves. Errors written for the user become messages unless the user
wants to see them raised, and an interruption ends well. -/
def handle (friendly terminal : Bool) (r : Report) : Report :=
  match r.ending with
  | .exit _ => r
  | .finished => (abort terminal "Bug in a CLI: error handler must has no-return").after r.out r.err
  | .interrupted =>
    let message := Level.info.message terminal "Interrupted by user (Ctrl+C)!"
    ⟨r.out ++ line "", r.err ++ message, .exit 0⟩
  | .raised e =>
    if e.isReported && friendly then
      match e.flaw? with
      | some flaw => (Report.raise flaw).after r.out r.err
      | none => (abort terminal e.message).after r.out r.err
    else r

end Sigil.CommandLine
