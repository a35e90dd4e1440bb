import Sigil.Proofs.OptionWords
import Sigil.Proofs.Verdict

/-!
Runs of the command line on a single word, and on a word behind the separator.
-/

namespace Sigil.CommandLine

open Text

variable {host : Host} {terminal : Bool} {features : Features} {settings : Settings}
  {word rest symbol : Text} {c : Char} {f : Flag} {gs : List (Flag × Text)} {short : Bool}
  {p : Punctuation}

namespace Settings

end Settings

end Sigil.CommandLine
