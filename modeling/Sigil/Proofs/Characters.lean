import Mathlib
import Sigil.Lexeme
import Sigil.Text.Lines

namespace Sigil

open Text

theorem isBlank_iff (c : Char) :
    isBlank c = true ↔ 0x09 ≤ c.toNat ∧ c.toNat ≤ 0x0d ∨ 0x1c ≤ c.toNat ∧ c.toNat ≤ 0x20 ∨
      c.toNat = 0x85 ∨ c.toNat = 0xa0 ∨ c.toNat = 0x1680 ∨ 0x2000 ≤ c.toNat ∧ c.toNat ≤ 0x200a ∨
      0x2028 ≤ c.toNat ∧ c.toNat ≤ 0x2029 ∨ c.toNat = 0x202f ∨ c.toNat = 0x205f ∨
      c.toNat = 0x3000 := by
  simp only [isBlank, blankRanges, Ranges.has, List.any_cons, List.any_nil, Bool.or_false,
    Bool.or_eq_true, Bool.and_eq_true, decide_eq_true_eq]
  omega

theorem isBlank_of_isLineEnd {c : Char} (h : isLineEnd c = true) : isBlank c = true := by
  simp only [isLineEnd, lineEndRanges, Ranges.has, List.any_cons, List.any_nil, Bool.or_false,
    Bool.or_eq_true, Bool.and_eq_true, decide_eq_true_eq] at h
  rw [isBlank_iff]
  omega

theorem isLineEnd_of_not_isBlank {c : Char} (h : isBlank c = false) : isLineEnd c = false := by
  cases he : isLineEnd c with
  | false => rfl
  | true => rw [← h, isBlank_of_isLineEnd he]

theorem isLineEnd_of_return {c : Char} (h : c = '\r' ∨ c = '\n') : isLineEnd c = true := by
  rcases h with rfl | rfl <;> rfl

theorem toNat_of_isWordPart {c : Char} (h : isWordPart c = true) :
    c.toNat = 95 ∨ 48 ≤ c.toNat ∧ c.toNat ≤ 57 ∨ 65 ≤ c.toNat ∧ c.toNat ≤ 90 ∨
      97 ≤ c.toNat ∧ c.toNat ≤ 122 := by
  simp only [isWordPart, Char.isAlphanum, Char.isAlpha, Char.isUpper, Char.isLower, Char.isDigit,
    Bool.or_eq_true, Bool.and_eq_true, decide_eq_true_eq, ge_iff_le, UInt32.le_iff_toNat_le] at h
  rcases h with ((h | h) | h) | rfl
  · exact .inr (.inr (.inl h))
  · exact .inr (.inr (.inr h))
  · exact .inr (.inl h)
  · exact .inl rfl

theorem isBlank_of_isWordPart {c : Char} (h : isWordPart c = true) : isBlank c = false := by
  have hc := toNat_of_isWordPart h
  rw [Bool.eq_false_iff, Ne, isBlank_iff]
  omega

theorem isWordPart_iff {c : Char} :
    isWordPart c = true ↔ isWordStart c = true ∨ c.isDigit = true := by
  simp only [isWordPart, isWordStart, Char.isAlphanum, Bool.or_eq_true]
  tauto

theorem isWordPart_of_isWordStart {c : Char} (h : isWordStart c = true) : isWordPart c = true :=
  isWordPart_iff.mpr (.inl h)

theorem isWordPart_of_isDigit {c : Char} (h : c.isDigit = true) : isWordPart c = true :=
  isWordPart_iff.mpr (.inr h)

theorem isPunctuation_iff (c : Char) : isPunctuation c = true ↔ c ∈ Atom.characters := by
  simp [isPunctuation]

theorem forall_mem_of_all {p : Char → Prop} [DecidablePred p] {cs : Text}
    (h : cs.all (fun c => decide (p c)) = true) : ∀ c ∈ cs, p c := by
  simpa using h

/-- A punctuation character is nothing else that a lexeme may begin with, and it is an atom. -/
theorem characters_apart : ∀ c ∈ Atom.characters,
    isBlank c = false ∧ isWordPart c = false ∧ c ≠ '"' ∧ Lexeme.delimiter? c = none ∧
      (⟨[c]⟩ : Atom) ∈ Atom.table :=
  forall_mem_of_all (by decide)

theorem isBlank_of_isPunctuation {c : Char} (h : isPunctuation c = true) : isBlank c = false :=
  (characters_apart c ((isPunctuation_iff c).mp h)).1

theorem isBlank_of_delimiter {c : Char} {k : TokenKind} (h : Lexeme.delimiter? c = some k) :
    isBlank c = false := by
  unfold Lexeme.delimiter? at h
  split at h
  case h_7 => simp at h
  all_goals rfl

end Sigil
