import Sigil.CommandLine.Goals

namespace Sigil

/-- Writes a report and gives its exit code. An error that was raised is written like a message. -/
def deliver (r : CommandLine.Report) : IO UInt32 := do
  let stdout ← IO.getStdout
  let stderr ← IO.getStderr
  stdout.putStr r.out
  stderr.putStr r.err
  match r.ending with
  | .exit code => return code.toUInt32
  | .raised e => stderr.putStr (CommandLine.line e.message); return 1
  | .finished => return 0
  | .interrupted => return 130

end Sigil

def main (args : List String) : IO UInt32 := do
  let terminal ← (← IO.getStderr).isTty
  let words := args.map String.toList
  Sigil.deliver (Sigil.CommandLine.run ⟨"unknown", "unknown"⟩ terminal ({} : Sigil.Features) words)
