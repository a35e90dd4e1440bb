import Sigil.Stream

/-!
Parse functions: sequences of steps on a stream, with loops and choices. What was consumed before a
failure stays consumed, so the stream is part of the outcome either way.
-/

namespace Sigil

inductive Rule
  | expect (kind : TokenKind)
  | parse (type : Punctuation)
  | punct (text : Text)
  | fail (message : String)
  /-- Repeats the body while the target comes next. -/
  | loop (target : Target) (body : List Rule)
  /-- Runs the body of the first choice whose target comes next. -/
  | choose (choices : List (Target × List Rule))

/-- What a rule gives. -/
inductive Yield
  | token (t : Token)
  | item (i : Instance)
  | locations (ls : List Location)
  | list (ys : List Yield)

abbrev Outcome (α : Type) := Except Error α × Stream

namespace Outcome

variable {α β : Type}

/-- The outcome of a single operation, which fails without moving the stream. -/
def ofStep (s : Stream) : Except Error (α × Stream) → Outcome α
  | .error e => (.error e, s)
  | .ok (a, s) => (.ok a, s)

def map (f : α → β) (o : Outcome α) : Outcome β := (o.1.map f, o.2)

/-- A result followed by those of the rest, which starts where it ended. -/
def cons (o : Outcome α) (rest : Stream → Outcome (List α)) : Outcome (List α) :=
  match o with
  | (.error e, s) => (.error e, s)
  | (.ok a, s) => (rest s).map (a :: ·)

/-- Repeats a body as long as `ahead` holds. A turn that leaves the stream where it was would be
repeated for ever. -/
def repeatWhile (ahead : Stream → Except Error Bool) (body : Stream → Outcome α) (s : Stream) :
    Outcome (List α) :=
  match ahead s with
  | .error e => (.error e, s)
  | .ok false => (.ok [], s)
  | .ok true =>
    (body s).cons fun t =>
      if t.cursor.remaining < s.cursor.remaining then repeatWhile ahead body t
      else (.error .stalled, t)
termination_by s.cursor.remaining

end Outcome

namespace Rule

mutual

def run : Rule → Stream → Outcome Yield
  | .expect kind, s => (Outcome.ofStep s (s.expect kind)).map .token
  | .parse type, s => (Outcome.ofStep s (type.parse s)).map .item
  | .punct text, s => (Outcome.ofStep s (s.parsePunct text)).map .locations
  | .fail message, s => (.error (s.failure message), s)
  | .loop target body, s =>
    (Outcome.repeatWhile (·.peek target) (fun t => (runAll body t).map .list) s).map .list
  | .choose choices, s => (runChoice choices s.lookahead s).map .list

def runAll : List Rule → Stream → Outcome (List Yield)
  | [], s => (.ok [], s)
  | r :: rs, s => (r.run s).cons (runAll rs)

def runChoice : List (Target × List Rule) → Lookahead → Stream → Outcome (List Yield)
  | [], l, s =>
    match l.error with
    | .ok e | .error e => (.error e, s)
  | (target, body) :: choices, l, s =>
    match l.peek target with
    | (.error e, _) => (.error e, s)
    | (.ok true, _) => runAll body s
    | (.ok false, l) => runChoice choices l s

end

end Rule

/-- What a stream can be asked to parse. -/
inductive Parsable
  | type (p : Punctuation)
  | rules (rs : List Rule)

def Parsable.run (s : Stream) : Parsable → Outcome Yield
  | .type p => (Outcome.ofStep s (p.parse s)).map .item
  | .rules rs => (Rule.runAll rs s).map .list

/-- Parses a whole text. -/
def parseText (text : Text) (p : Parsable) : Except Error Yield := do
  let s ← Stream.open? 0 text
  let (result, rest) := p.run s
  let y ← result
  if ← rest.isEmpty then return y else .error (rest.failure "unexpected token")

end Sigil
