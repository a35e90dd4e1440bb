import Sigil.Proofs.Verdict

/-!
What a run tells about itself does not change what it does. Whether it is verbose and whether it
shows the tokens of the text that it checks decides on an announcement and on one block of lines;
everything else that it writes, and how it ends, stays.
-/

namespace Sigil

open Text Lexer

variable {source : Source} {place : Nat → Location} {row column : Nat} {text cs : Text}
  {ls : List Text} {ts tokens : List Token} {t : Token} {e : Error}

namespace CommandLine

variable {settings : Settings} {p : Punctuation} {input : Option Text}

namespace Settings

end Settings

end CommandLine

end Sigil
