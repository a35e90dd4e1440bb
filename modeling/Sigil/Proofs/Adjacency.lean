import Sigil.Proofs.Matching
import Sigil.Proofs.Tiling

namespace Sigil

open Text Lexer

variable {source : Source} {place : Nat → Location} {row column : Nat} {ending : Location}
  {cs : Text} {ls : List Text} {t : Token} {ts tokens : List Token}

namespace Lexer

/-- The first token that is read off a text lies behind the blanks that the text begins with. -/
theorem Reads.first (h : Reads place column cs (t :: ts)) :
    ∃ n, t.location = place (column + n) ∧ (trailing cs = false ↔ n = 0) := by
  generalize hus : t :: ts = us at h
  induction h with
  | done => simp at hus
  | @blank column c cs us hc _ ih =>
      obtain ⟨n, hl, -⟩ := ih hus
      refine ⟨n + 1, ?_, by simp [trailing, hc]⟩
      rw [hl, Nat.add_assoc, Nat.add_comm 1]
  | token hl _ _ =>
      obtain ⟨rfl, -⟩ := List.cons.inj hus
      exact ⟨0, rfl, by simp [trailing, Lexeme.isBlank_of_scan hl]⟩

end Lexer

end Sigil
