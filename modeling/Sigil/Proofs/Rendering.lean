import Sigil.CommandLine.Goals
import Sigil.Proofs.Lexer

namespace Sigil

open Text Lexer

/-- Everything about a token but where it lies. -/
def Token.content (t : Token) : TokenKind × Text × Value × Bool :=
  (t.kind, t.text, t.value, t.trailing)

/-- Tokens that can be read off a text one after another: each is a lexeme, and a token without
trailing whitespace is a lexeme in front of the next one. -/
inductive Readable : List Token → Prop
  | nil : Readable []
  | cons {c : Char} {l : Lexeme} {rest : Text} {ts : List Token} (location : Location)
      (hl : Lexeme.scan c (l.more ++ rest) = .ok l)
      (hj : trailing rest = true ∨ ∃ t us, ts = t :: us ∧ rest.head? = t.text.head?)
      (h : Readable ts) :
      Readable (⟨l.kind, c :: l.more, l.value, location, trailing rest⟩ :: ts)

/-- The texts of tokens, with a space after each that has trailing whitespace, but not after the
last. -/
def spaced : List Token → Text
  | [] => []
  | [t] => t.text
  | t :: u :: ts => Output.pieces t ++ spaced (u :: ts)

variable {source : Source} {place : Nat → Location} {row column : Nat} {ending : Location}
  {cs : Text} {ls : List Text} {t : Token} {ts us : List Token}

namespace Readable

theorem append (h : Readable ts) (hu : Readable us) : Readable (ts ++ us) := by
  induction h with
  | nil => exact hu
  | cons location hl hj _ ih =>
      refine .cons location hl ?_ ih
      rcases hj with hj | ⟨t, vs, rfl, ht⟩
      · exact .inl hj
      · exact .inr ⟨t, vs ++ us, rfl, ht⟩

theorem of_suffix (h : Readable ts) (hs : us <:+ ts) : Readable us := by
  induction h with
  | nil => rw [List.suffix_nil.mp hs]; exact .nil
  | cons location hl hj h ih =>
      rcases List.suffix_cons_iff.mp hs with rfl | hs
      · exact .cons location hl hj h
      · exact ih hs

theorem of_reads (h : Reads place column cs ts) : Readable ts := by
  induction h with
  | done => exact .nil
  | blank _ _ ih => exact ih
  | @token column c l rest ts hl h ih =>
      refine .cons _ hl ?_ ih
      cases rest with
      | nil => exact .inl rfl
      | cons d rest =>
          cases hb : isBlank d with
          | true => exact .inl hb
          | false =>
              obtain ⟨m, rest', us, -, -, -, rfl⟩ := h.cons_inv hb
              exact .inr ⟨_, us, rfl, rfl⟩

theorem text_ne_nil (h : Readable (t :: ts)) : t.text ≠ [] := by
  cases h with
  | cons => exact List.cons_ne_nil _ _

theorem head?_spaced (h : Readable (t :: ts)) : (spaced (t :: ts)).head? = t.text.head? := by
  obtain ⟨c, more, hc⟩ := List.exists_cons_of_ne_nil h.text_ne_nil
  cases ts with
  | nil => rfl
  | cons u ts =>
      rw [spaced, Output.pieces]
      split <;> simp [hc]

theorem spaced_ne_nil (h : Readable (t :: ts)) : spaced (t :: ts) ≠ [] := by
  intro hs
  have ht := h.head?_spaced
  rw [hs] at ht
  exact h.text_ne_nil (List.head?_eq_none_iff.mp ht.symm)

/-- The texts of tokens are read as these tokens again, wherever they begin. -/
theorem reads_spaced (h : Readable ts) (place : Nat → Location) (column : Nat) :
    ∃ us, Reads place column (spaced ts) us ∧ us.map Token.content = ts.map Token.content := by
  induction h generalizing column with
  | nil => exact ⟨[], .done column, rfl⟩
  | @cons c l rest ts location hl hj h ih =>
      cases ts with
      | nil =>
          have ht : trailing rest = true := by simpa using hj
          have hl' : Lexeme.scan c (l.more ++ []) = .ok l := Lexeme.scan_append hl (.inr rfl)
          rw [List.append_nil] at hl'
          exact ⟨_, Reads.single hl' place column, by rw [ht]; rfl⟩
      | cons u ts =>
          cases ht : trailing rest with
          | true =>
              -- One space stands for whatever ended the lexeme before.
              obtain ⟨us, hr, hu⟩ := ih (column + 1 + l.more.length + 1)
              have hs : spaced (⟨l.kind, c :: l.more, l.value, location, true⟩ :: u :: ts) =
                  c :: (l.more ++ ' ' :: spaced (u :: ts)) := by
                simp [spaced, Output.pieces]
              rw [hs]
              refine ⟨_, .token (Lexeme.scan_append hl (.inr rfl)) (.blank rfl hr), ?_⟩
              rw [List.map_cons, List.map_cons, hu]
              rfl
          | false =>
              -- The lexeme still meets the character that came next.
              obtain ⟨us, hr, hu⟩ := ih (column + 1 + l.more.length)
              have hs : spaced (⟨l.kind, c :: l.more, l.value, location, false⟩ :: u :: ts) =
                  c :: (l.more ++ spaced (u :: ts)) := by
                simp [spaced, Output.pieces]
              have hh : (spaced (u :: ts)).head? = rest.head? := by
                rw [h.head?_spaced]
                simpa [ht, eq_comm] using hj
              have ht' : trailing (spaced (u :: ts)) = false := by rwa [trailing, hh]
              rw [hs]
              refine ⟨_, .token (Lexeme.scan_append hl (.inl hh)) hr, ?_⟩
              rw [List.map_cons, List.map_cons, hu, ht']
              rfl

theorem flatMap_pieces (h : Readable (t :: ts)) :
    (t :: ts).flatMap Output.pieces = spaced (t :: ts) ++ [' '] := by
  induction ts generalizing t with
  | nil =>
      cases h with
      | @cons c l rest _ location hl hj =>
          have ht : trailing rest = true := by simpa using hj
          simp [spaced, Output.pieces, ht]
  | cons u ts ih =>
      rw [List.flatMap_cons, ih (h.of_suffix (List.suffix_cons _ _)), spaced, List.append_assoc]

theorem getLast?_spaced (h : Readable ts) : ∀ x ∈ (spaced ts).getLast?, x ≠ ' ' := by
  induction h with
  | nil => simp [spaced]
  | @cons c l rest ts location hl hj h ih =>
      cases ts with
      | nil =>
          intro x hx hb
          have hl' := Lexeme.isBlank_of_getLast? hl x hx
          rw [hb] at hl'
          exact absurd hl' (by decide)
      | cons u ts =>
          obtain ⟨d, more, hd⟩ := List.exists_cons_of_ne_nil h.spaced_ne_nil
          rw [hd] at ih
          intro x hx
          apply ih x
          rw [spaced, hd, List.getLast?_append] at hx
          simpa [List.getLast?_cons] using hx

theorem toSource_eq (h : Readable ts) : Output.toSource ts = spaced ts := by
  cases ts with
  | nil => rfl
  | cons t ts =>
      rw [Output.toSource, h.flatMap_pieces, dropTrailing_append (by simp)]
      apply dropTrailing_eq_self
      intro x hx
      simpa using h.getLast?_spaced x hx

theorem toSource_of_flatMap (h : Readable ts) (hp : ts.flatMap Output.pieces = cs ++ [' ']) :
    Output.toSource ts = cs := by
  cases ts with
  | nil => simp at hp
  | cons t ts =>
      rw [h.flatMap_pieces] at hp
      rw [h.toSource_eq]
      exact List.append_cancel_right hp

end Readable

theorem mem_pieces {x : Char} :
    x ∈ Output.pieces t ↔ x ∈ t.text ∨ t.trailing = true ∧ x = ' ' := by
  rw [Output.pieces]
  split
  next ht => simp [ht]
  next ht => simp [ht]

theorem mem_toSource {x : Char} (hx : x ∈ Output.toSource ts) : x = ' ' ∨ ∃ t ∈ ts, x ∈ t.text := by
  obtain ⟨b, -, hb⟩ := exists_dropTrailing (· = ' ') (ts.flatMap Output.pieces)
  have hp : x ∈ ts.flatMap Output.pieces := by
    rw [hb]
    exact List.mem_append_left _ hx
  obtain ⟨t, ht, hp⟩ := List.mem_flatMap.mp hp
  rcases mem_pieces.mp hp with hx | ⟨-, rfl⟩
  · exact .inr ⟨t, ht, hx⟩
  · exact .inl rfl

/-- Printed tokens are read again as they are, whatever text they were on before. -/
theorem tokenize_toSource (h : Readable ts) (hn : ∀ t ∈ ts, ∀ x ∈ t.text, isLineEnd x = false) :
    ∃ us e, tokenize (Output.toSource ts) = .ok (us ++ [.endOfInput e]) ∧
      us.map Token.content = ts.map Token.content := by
  have hend : ∀ x ∈ Output.toSource ts, isLineEnd x = false := by
    intro x hx
    rcases mem_toSource hx with rfl | ⟨t, ht, hx⟩
    · rfl
    · exact hn t ht x hx
  obtain ⟨us, hr, hu⟩ := h.reads_spaced (.inSource (.string none) 0) 0
  rw [← h.toSource_eq, ← stripReturns_eq_self hend] at hr
  refine ⟨us, .inSource (.string none) 0 (stripReturns (Output.toSource ts)).length, ?_, hu⟩
  rw [tokenize_eq_ok_iff, inputLines_of_no_lineEnd hend]
  exact .line hr (.done 1 _)

end Sigil
