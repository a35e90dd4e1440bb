import Sigil.Text.LowerCase

namespace Sigil.Text

/-- Puts a hyphen before every capital letter of ASCII but a leading one. -/
def hyphenate : Text → Text
  | [] => []
  | c :: cs => c :: cs.flatMap fun d => if d.isUpper then ['-', d] else [d]

def kebab (cs : Text) : Text := lower (hyphenate cs)

end Sigil.Text
