import Sigil.Rule
import Sigil.Proofs.Matching

namespace Sigil

/-- The same place of a buffer, or a later one. -/
structure Cursor.Reaches (c d : Cursor) : Prop where
  buffer : d.buffer = c.buffer
  position : c.position ≤ d.position

/-- The last token is the next one. -/
def Cursor.AtLast (c : Cursor) : Prop := c.position = c.buffer.tokens.length - 1

variable {b c d : Cursor} {s t : Stream} {x : Token} {k : TokenKind} {text : Text}
  {p : Punctuation} {i : Instance}

namespace Cursor

theorem Reaches.refl (c : Cursor) : c.Reaches c := ⟨rfl, Int.le_refl _⟩

theorem Reaches.trans (h : b.Reaches c) (h' : c.Reaches d) : b.Reaches d :=
  ⟨h'.buffer.trans h.buffer, Int.le_trans h.position h'.position⟩

theorem position_lt_of_token (h : c.token = .ok x) : c.position < c.buffer.tokens.length := by
  unfold token at h
  split at h
  next hr =>
    obtain ⟨n, hn, -⟩ := Option.bind_eq_some_iff.mp hr
    by_cases hneg : c.position < 0
    · omega
    · simp only [resolveIndex, if_neg hneg, Option.ite_none_right_eq_some] at hn
      exact hn.1.2
  next => simp at h

theorem AtLast.kind (hl : c.AtLast) (h : c.token = .ok x) : x.kind = .eof := by
  obtain ⟨b, position⟩ := c
  obtain ⟨n, hn⟩ : ∃ n, b.tokens.length = n + 1 := Nat.exists_eq_add_one.mpr b.length_pos
  have hlt : n < b.tokens.length := by omega
  have hp : position = n := by
    simp only [AtLast, hn] at hl
    omega
  rw [hp, token_eq hlt] at h
  obtain rfl := Except.ok.inj h
  by_contra hk
  have hs := Buffer.succ_lt_length hlt hk
  omega

theorem advance_one_cases (h : c.token = .ok x) :
    c.AtLast ∧ c.advance 1 = c ∨ ¬ c.AtLast ∧ c.advance 1 = ⟨c.buffer, c.position + 1⟩ := by
  have hlt := position_lt_of_token h
  by_cases hl : c.AtLast
  · refine .inl ⟨hl, ?_⟩
    have hm : min (c.position + 1) (c.buffer.tokens.length - 1 : Int) = c.position := by
      rw [AtLast] at hl
      omega
    rw [advance, hm]
  · refine .inr ⟨hl, ?_⟩
    have hm : min (c.position + 1) (c.buffer.tokens.length - 1 : Int) = c.position + 1 := by
      rw [AtLast] at hl
      omega
    rw [advance, hm]

theorem advance_one_eq (h : c.token = .ok x) (hk : x.kind ≠ .eof) :
    c.advance 1 = ⟨c.buffer, c.position + 1⟩ := by
  rcases advance_one_cases h with ⟨hl, -⟩ | ⟨-, ha⟩
  · exact absurd (hl.kind h) hk
  · exact ha

theorem advance_one_reaches (h : c.token = .ok x) : c.Reaches (c.advance 1) := by
  rcases advance_one_cases h with ⟨-, ha⟩ | ⟨-, ha⟩
  · rw [ha]
    exact .refl c
  · rw [ha]
    exact ⟨rfl, Int.le_add_one (Int.le_refl _)⟩

theorem punct_some (h : c.punct = .ok (some (x, d))) :
    c.token = .ok x ∧ x.kind = .punct ∧ d = ⟨c.buffer, c.position + 1⟩ := by
  rw [punct] at h
  cases hx : c.token with
  | error e => simp [hx, Except.map] at h
  | ok y =>
      simp only [hx, Except.map, Except.ok.injEq, Option.ite_none_right_eq_some,
        Option.some.injEq, Prod.mk.injEq] at h
      obtain ⟨hk, rfl, rfl⟩ := h
      exact ⟨rfl, hk, advance_one_eq hx (by simp [hk])⟩

theorem reaches_add (c : Cursor) (n : Nat) : c.Reaches ⟨c.buffer, c.position + n⟩ :=
  ⟨rfl, Int.le_add_of_nonneg_right (Int.natCast_nonneg n)⟩

theorem matchPunct_cons_iff {ch : Char} {rest : Text} {ts : List Token} :
    c.matchPunct (ch :: rest) = .ok (some (ts, d)) ↔
      ∃ x us, c.punct = .ok (some (x, ⟨c.buffer, c.position + 1⟩)) ∧ x.text = [ch] ∧
        (rest = [] ∨ x.trailing = false) ∧
        matchPunct ⟨c.buffer, c.position + 1⟩ rest = .ok (some (us, d)) ∧ ts = x :: us := by
  constructor
  · intro h
    rw [matchPunct] at h
    split at h
    next => simp at h
    next => simp at h
    next x after hp =>
      obtain ⟨-, -, rfl⟩ := punct_some hp
      split at h
      next ht =>
        cases hm : matchPunct ⟨c.buffer, c.position + 1⟩ rest with
        | error e => simp [hm, Except.map] at h
        | ok found =>
            rw [hm] at h
            obtain ⟨⟨us, last⟩, rfl, hf⟩ := Option.map_eq_some_iff.mp (Except.ok.inj h)
            obtain ⟨rfl, rfl⟩ := Prod.mk.inj hf
            exact ⟨x, us, hp, ht.1, ht.2, rfl, rfl⟩
      next => simp at h
  · rintro ⟨x, us, hp, ht, hj, hm, rfl⟩
    simp [matchPunct, hp, ht, hj, hm, Except.map]

/-- A match takes one token for each character, wherever the cursor is. -/
theorem matchPunct_some {ts : List Token} (h : c.matchPunct text = .ok (some (ts, d))) :
    d = ⟨c.buffer, c.position + text.length⟩ := by
  induction text generalizing c ts with
  | nil =>
      obtain ⟨-, rfl⟩ := Prod.mk.inj (Option.some.inj (Except.ok.inj h))
      simp
  | cons ch rest ih =>
      obtain ⟨x, us, -, -, -, hm, -⟩ := matchPunct_cons_iff.mp h
      rw [ih hm, List.length_cons]
      simp only [Cursor.mk.injEq, true_and]
      omega

end Cursor

namespace Stream

theorem expect_ok (h : s.expect k = .ok (x, t)) :
    s.cursor.token = .ok x ∧ x.kind = k ∧ t.cursor = s.cursor.advance 1 := by
  unfold expect at h
  split at h
  next => simp at h
  next y hy =>
    split at h
    next hk =>
      obtain ⟨rfl, rfl⟩ := Prod.mk.inj (Except.ok.inj h)
      exact ⟨hy, hk, rfl⟩
    next => simp at h

theorem expect_reaches (h : s.expect k = .ok (x, t)) : s.cursor.Reaches t.cursor := by
  obtain ⟨hx, -, hc⟩ := expect_ok h
  rw [hc]
  exact Cursor.advance_one_reaches hx

theorem advanceTo_ok (h : s.advanceTo c = .ok t) :
    t.cursor = c ∧ s.cursor.position ≤ c.position := by
  unfold advanceTo at h
  split at h
  next => simp at h
  next =>
    split at h
    next => simp at h
    next hle => exact ⟨by rw [← Except.ok.inj h], Int.not_lt.mp hle⟩

/-- A stream can be moved to whatever it reaches: neither of the two objections applies. -/
theorem advanceTo_of_reaches (h : s.cursor.Reaches c) : s.advanceTo c = .ok ⟨c⟩ := by
  rw [advanceTo, if_neg (by simp [h.buffer]), if_neg (Int.not_lt.mpr h.position)]

theorem parsePunct_ok {ls : List Location} (h : s.parsePunct text = .ok (ls, t)) :
    ∃ ts, s.cursor.matchPunct text = .ok (some (ts, t.cursor)) ∧ ls = atomLocations text ts := by
  unfold parsePunct at h
  split at h
  next => simp at h
  next => simp at h
  next ts rest hm =>
    cases ha : s.advanceTo rest with
    | error e => simp [ha, Except.map] at h
    | ok u =>
        rw [ha] at h
        obtain ⟨rfl, rfl⟩ := Prod.mk.inj (Except.ok.inj h)
        rw [(advanceTo_ok ha).1]
        exact ⟨ts, hm, rfl⟩

theorem parsePunct_reaches {ls : List Location} (h : s.parsePunct text = .ok (ls, t)) :
    s.cursor.Reaches t.cursor := by
  obtain ⟨ts, hm, -⟩ := parsePunct_ok h
  rw [Cursor.matchPunct_some hm]
  exact Cursor.reaches_add _ _

end Stream

namespace Punctuation

/-- What a type is parsed as is built from the locations of its atoms. -/
theorem parse_ok (h : p.parse s = .ok (i, t)) :
    ∃ ls, s.parsePunct p.symbol = .ok (ls, t) ∧
      Instance.build p (some (.many (ls.map some))) = .ok i := by
  unfold parse at h
  cases hq : p.requireParsing "parse" with
  | error e => simp [hq, bind, Except.bind] at h
  | ok u =>
      cases hm : s.parsePunct p.symbol with
      | error e => simp [hq, hm, bind, Except.bind] at h
      | ok found =>
          obtain ⟨ls, rest⟩ := found
          cases hb : Instance.build p (some (.many (ls.map some))) with
          | error e => simp [hq, hm, hb, bind, Except.bind] at h
          | ok j =>
              simp only [hq, hm, hb, bind, Except.bind, pure, Except.pure, Except.ok.injEq,
                Prod.mk.injEq] at h
              obtain ⟨rfl, rfl⟩ := h
              exact ⟨ls, rfl, hb⟩

theorem parse_reaches (h : p.parse s = .ok (i, t)) : s.cursor.Reaches t.cursor := by
  obtain ⟨ls, hm, -⟩ := parse_ok h
  exact Stream.parsePunct_reaches hm

/-- A symbol has characters, so parsing it takes tokens, and none of them is the last one. -/
theorem parse_moves (h : p.parse s = .ok (i, t)) :
    ¬ s.cursor.AtLast ∧ s.cursor.position < t.cursor.position := by
  obtain ⟨ls, hm, -⟩ := parse_ok h
  obtain ⟨ts, hm, -⟩ := Stream.parsePunct_ok hm
  obtain ⟨ch, rest, hs⟩ := List.exists_cons_of_ne_nil p.symbol_spec.1
  rw [hs] at hm
  obtain ⟨x, us, hp, -, -, -, -⟩ := Cursor.matchPunct_cons_iff.mp hm
  obtain ⟨hx, hk, -⟩ := Cursor.punct_some hp
  refine ⟨fun hl => ?_, ?_⟩
  · have he := hl.kind hx
    simp [hk] at he
  · rw [Cursor.matchPunct_some hm, List.length_cons]
    dsimp only
    omega

end Punctuation

end Sigil
