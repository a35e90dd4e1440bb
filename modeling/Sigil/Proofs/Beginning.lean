import Sigil.Proofs.Grammar
import Sigil.Proofs.WholeText

namespace Sigil

open Text Lexer

variable {source : Source} {place : Nat → Location} {row column : Nat} {ending : Location}
  {cs s text : Text} {ls : List Text} {ts tokens : List Token} {t : Token}

namespace Lexer

/-- Whatever holds of all places in a source holds of the tokens found there, also of those before
an error. -/
theorem mem_line {P : Location → Prop} (hp : ∀ n, P (place n))
    (ht : t ∈ (line place column cs).tokens) : P t.location := by
  fun_induction line place column cs with
  | case1 => simp at ht
  | case2 column c cs hc ih => exact ih ht
  | case3 => simp [Run.stop] at ht
  | case4 column c cs hc l hl rest ih =>
      rcases List.mem_cons.mp ht with rfl | ht
      · exact hp column
      · exact ih ht

theorem mem_lines {P : Location → Prop} (hp : ∀ row n, P (.inSource source row n))
    (he : P ending) (ht : t ∈ (lines source row ending ls).tokens) : P t.location := by
  induction ls generalizing row ending with
  | nil =>
      rw [List.mem_singleton.mp ht]
      exact he
  | cons l ls ih =>
      rw [lines, Run.andThen] at ht
      split at ht
      next => exact mem_line (hp row) ht
      next =>
        rcases List.mem_append.mp ht with ht | ht
        · exact mem_line (hp row) ht
        · exact ih (hp row _) ht

end Lexer

theorem source_of_mem_lexText (ht : t ∈ (lexText text).tokens) :
    t.location.source = .string none :=
  mem_lines (P := fun l => l.source = .string none) (fun _ _ => rfl) rfl ht

end Sigil
