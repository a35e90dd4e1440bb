import Sigil.Proofs.Matching

namespace Sigil

/-- A place was looked up where there is nothing. -/
def Error.isOutOfRange : Error → Bool
  | .beyondTokens | .beyondSymbol | .oversizedIndex => true
  | _ => false

/-- Something else comes next, the type cannot be parsed, or the stream would have to go back. -/
def Error.isRefusal : Error → Bool
  | .parse .. | .absentFromType .. | .backwards => true
  | _ => false

/-- A failure, if it is one, is a refusal. -/
def Refuses {α : Type} (r : Except Error α) : Prop := ∀ e, r = .error e → e.isRefusal = true

def Cursor.Within (b : Buffer) (c : Cursor) : Prop := ∃ i : Nat, i < b.tokens.length ∧ c = ⟨b, i⟩

variable {α β : Type} {b : Buffer} {c : Cursor} {s : Stream} {n : Nat}

theorem Refuses.ok (x : α) : Refuses (.ok x : Except Error α) := by
  intro e he
  cases he

theorem Refuses.error {e : Error} (h : e.isRefusal = true) :
    Refuses (.error e : Except Error α) := by
  intro d hd
  rwa [← Except.error.inj hd]

theorem Refuses.map {r : Except Error α} (h : Refuses r) (φ : α → β) : Refuses (r.map φ) := by
  intro e he
  cases r with
  | ok x => cases he
  | error d => exact Refuses.error (h d rfl) e he

theorem isOutOfRange_of_isRefusal {e : Error} (h : e.isRefusal = true) :
    e.isOutOfRange = false := by
  cases e <;> simp [Error.isRefusal] at h <;> rfl

namespace Cursor

theorem Within.token (h : c.Within b) : ∃ t, c.token = .ok t := by
  obtain ⟨i, hi, rfl⟩ := h
  exact ⟨_, token_eq hi⟩

theorem Within.token_refuses (h : c.Within b) : Refuses c.token := by
  obtain ⟨t, ht⟩ := h.token
  rw [ht]
  exact .ok t

theorem Within.peekPunct (h : c.Within b) (text : Text) : ∃ r, c.peekPunct text = .ok r := by
  obtain ⟨i, hi, rfl⟩ := h
  exact ⟨_, peekPunct_eq hi text⟩

theorem advance_one (hi : n < b.tokens.length) : (advance ⟨b, n⟩ 1).Within b := by
  refine ⟨min (n + 1) (b.tokens.length - 1), by omega, ?_⟩
  simp only [advance, Cursor.mk.injEq, true_and]
  omega

end Cursor

theorem Punctuation.requireParsing_refuses (p : Punctuation) (member : String) :
    Refuses (p.requireParsing member) := by
  unfold requireParsing
  split
  next => exact .ok ()
  next => exact .error rfl

theorem Target.display_refuses (t : Target) : Refuses t.display := by
  cases t with
  | kind k => exact .ok _
  | type p => exact (p.requireParsing_refuses "display").map _

theorem Target.peek_refuses (h : c.Within b) (t : Target) : Refuses (t.peek c) := by
  cases t with
  | kind k => exact h.token_refuses.map _
  | type p =>
      obtain ⟨r, hr⟩ := h.peekPunct p.symbol
      rw [peek, Punctuation.peek, hr]
      exact (p.requireParsing_refuses "peek").map _

namespace Stream

theorem failure_isRefusal (h : s.cursor.Within b) (message : String) :
    (s.failure message).isRefusal = true := by
  obtain ⟨t, ht⟩ := h.token
  rw [failure, error, ht]
  rfl

theorem expect_cases (h : s.cursor.Within b) (k : TokenKind) :
    Refuses (s.expect k) ∧
      ∀ x t, s.expect k = .ok (x, t) → t.cursor = s.cursor.advance 1 := by
  obtain ⟨x, hx⟩ := h.token
  simp only [expect, hx]
  split
  next => exact ⟨.ok _, fun y t ht => by rw [← (Prod.mk.inj (Except.ok.inj ht)).2]⟩
  next => exact ⟨.error (failure_isRefusal h _), by simp⟩

theorem advanceTo_cases (hs : s.cursor.Within b) (hc : c.Within b) :
    Refuses (s.advanceTo c) ∧
      ∀ t, s.advanceTo c = .ok t → t.cursor = c ∧ s.cursor.position ≤ c.position := by
  obtain ⟨i, -, hi⟩ := hs
  obtain ⟨j, -, rfl⟩ := hc
  simp only [advanceTo, hi, ne_eq, not_true, if_false]
  split
  next => exact ⟨.error rfl, by simp⟩
  next hle =>
    refine ⟨.ok _, fun t ht => ?_⟩
    rw [← Except.ok.inj ht]
    exact ⟨rfl, Int.not_lt.mp hle⟩

end Stream

/-- A type is parsed with one token for each character of its symbol. It is refused only before the
stream has moved: an atom left without a location would be a failure of another kind. -/
theorem Punctuation.parse_cases (h : s.cursor.Within b) (p : Punctuation) :
    Refuses (p.parse s) ∧ ∀ x t, p.parse s = .ok (x, t) → t.cursor.Within b ∧
      t.cursor.position = s.cursor.position + p.symbol.length := by
  obtain ⟨c⟩ := s
  obtain ⟨i, hi, hc⟩ := h
  obtain rfl : c = ⟨b, i⟩ := hc
  by_cases hp : p.features.parsing = true
  · rw [parse_eq hp hi]
    split
    next hs =>
      refine ⟨.ok _, fun x t ht => ?_⟩
      rw [← (Prod.mk.inj (Except.ok.inj ht)).2]
      exact ⟨⟨_, Buffer.add_length_lt hi hs, rfl⟩, Int.natCast_add i p.symbol.length⟩
    next => exact ⟨.error (Stream.failure_isRefusal ⟨i, hi, rfl⟩ _), by simp⟩
  · have ha : p.parse ⟨⟨b, i⟩⟩ = .error (.absentFromType p.name "parse") := by
      simp [parse, requireParsing, hp, bind, Except.bind]
    rw [ha]
    exact ⟨.error rfl, by simp⟩

theorem Lookahead.peek_cases {l : Lookahead} (h : l.cursor.Within b) (t : Target) :
    Refuses (l.peek t).1 ∧ (l.peek t).2.cursor = l.cursor := by
  unfold peek
  split
  next e he => exact ⟨.error (t.display_refuses e he), rfl⟩
  next => exact ⟨t.peek_refuses h, rfl⟩

end Sigil
