import Sigil.Proofs.Extension

namespace Sigil

namespace Cursor

variable {c d : Cursor} {x : Token} {s t text : Text} {ts us : List Token}

/-- A position is in a buffer if it is one of its places, counted from the start or from the
end. -/
theorem exists_token_iff : (∃ x, c.token = .ok x) ↔
    -(c.buffer.tokens.length : Int) ≤ c.position ∧ c.position < c.buffer.tokens.length := by
  simp only [token, resolveIndex]
  generalize hplace : (if c.position < 0 then c.position + c.buffer.tokens.length else c.position) = n
  have hn : 0 ≤ n ∧ n < c.buffer.tokens.length ↔
      -(c.buffer.tokens.length : Int) ≤ c.position ∧ c.position < c.buffer.tokens.length := by
    split at hplace <;> omega
  rw [← hn]
  by_cases h : 0 ≤ n ∧ n < c.buffer.tokens.length
  · have hlt : n.toNat < c.buffer.tokens.length := by omega
    rw [if_pos h, Option.bind_some, List.getElem?_eq_getElem hlt]
    exact iff_of_true ⟨_, rfl⟩ h
  · rw [if_neg h, Option.bind_none]
    simp [h]

theorem exists_token_advance (h : c.token = .ok x) (n : Nat) :
    ∃ y, (c.advance n).token = .ok y := by
  have hc := exists_token_iff.mp ⟨x, h⟩
  rw [exists_token_iff]
  simp only [advance]
  omega

theorem exists_peekPunct (h : c.token = .ok x) (text : Text) :
    ∃ found, c.peekPunct text = .ok found := by
  suffices hm : ∃ r, c.matchPunct text = .ok r by
    obtain ⟨r, hr⟩ := hm
    exact ⟨r.isSome, by rw [peekPunct, hr]; rfl⟩
  induction text generalizing c x with
  | nil => exact ⟨_, rfl⟩
  | cons ch rest ih =>
      obtain ⟨y, hy⟩ := exists_token_advance h 1
      obtain ⟨r, hr⟩ := ih hy
      rw [Nat.cast_one] at hr
      by_cases hk : x.kind = .punct
      · simp only [matchPunct, punct, h, Except.map, hk, if_true, hr]
        split_ifs <;> exact ⟨_, rfl⟩
      · simp [matchPunct, punct, h, Except.map, hk]

/-- The last token of the first part has to be joint, as it is no longer the last one. -/
theorem matchPunct_append_iff (ht : t ≠ []) :
    c.matchPunct (s ++ t) = .ok (some (ts, d)) ↔ ∃ us vs m,
      c.matchPunct s = .ok (some (us, m)) ∧ (∀ x ∈ us.getLast?, x.trailing = false) ∧
        m.matchPunct t = .ok (some (vs, d)) ∧ ts = us ++ vs := by
  induction s generalizing c ts with
  | nil =>
      constructor
      · exact fun h => ⟨[], ts, c, rfl, by simp, h, rfl⟩
      · rintro ⟨us, vs, m, hm, -, h, rfl⟩
        obtain ⟨rfl, rfl⟩ := Prod.mk.inj (Option.some.inj (Except.ok.inj hm))
        exact h
  | cons ch rest ih =>
      rw [List.cons_append, matchPunct_cons_iff]
      constructor
      · rintro ⟨x, ws, hx, htext, hj, hm, rfl⟩
        obtain ⟨us, vs, m, hu, hl, hv, rfl⟩ := ih.mp hm
        have hx' : x.trailing = false := hj.resolve_left (List.append_ne_nil_of_right_ne_nil _ ht)
        refine ⟨x :: us, vs, m, matchPunct_cons_iff.mpr ⟨x, us, hx, htext, .inr hx', hu, rfl⟩, ?_,
          hv, rfl⟩
        cases us with
        | nil => simpa using hx'
        | cons u us => rwa [List.getLast?_cons_cons]
      · rintro ⟨ws, vs, m, hw, hl, hv, rfl⟩
        obtain ⟨x, us, hx, htext, hj, hu, rfl⟩ := matchPunct_cons_iff.mp hw
        have hx' : x.trailing = false := by
          rcases hj with rfl | hj
          · obtain ⟨rfl, -⟩ := Prod.mk.inj (Option.some.inj (Except.ok.inj hu))
            exact hl x rfl
          · exact hj
        refine ⟨x, us ++ vs, hx, htext, .inr hx', ih.mpr ⟨us, vs, m, hu, ?_, hv, rfl⟩, rfl⟩
        cases us with
        | nil => simp
        | cons u us => rwa [List.getLast?_cons_cons] at hl

theorem exists_last_of_matchPunct (h : c.matchPunct s = .ok (some (us, d))) (hs : s ≠ []) :
    ∃ x, us.getLast? = some x ∧
      token ⟨c.buffer, c.position + s.length - 1⟩ = .ok x ∧ x.kind = .punct := by
  induction s generalizing c us with
  | nil => exact absurd rfl hs
  | cons ch rest ih =>
      obtain ⟨x, us, hx, -, -, hm, rfl⟩ := matchPunct_cons_iff.mp h
      cases rest with
      | nil =>
          obtain ⟨rfl, -⟩ := Prod.mk.inj (Option.some.inj (Except.ok.inj hm))
          obtain ⟨ht, hk, -⟩ := punct_some hx
          refine ⟨x, rfl, ?_, hk⟩
          rwa [List.length_singleton, Nat.cast_one, Int.add_sub_cancel]
      | cons ch' rest =>
          obtain ⟨y, hy, ht, hk⟩ := ih hm (List.cons_ne_nil _ _)
          have hp : c.position + 1 + (ch' :: rest).length - 1 =
              c.position + (ch :: ch' :: rest).length - 1 := by
            simp only [List.length_cons]
            omega
          rw [hp] at ht
          refine ⟨y, ?_, ht, hk⟩
          rw [List.getLast?_cons, hy]
          rfl

/-- What was matched ends before the last token, so advancing over it does not stop there. -/
theorem advance_of_matchPunct (h : c.matchPunct s = .ok (some (us, d))) (hs : s ≠ []) :
    c.advance s.length = d := by
  obtain ⟨x, -, ht, hk⟩ := exists_last_of_matchPunct h hs
  have hlt := position_lt_of_token ht
  have hl : ¬ AtLast ⟨c.buffer, c.position + s.length - 1⟩ := by
    intro hl
    have he := hl.kind ht
    simp [hk] at he
  rw [matchPunct_some h]
  simp only [AtLast] at hl hlt
  simp only [advance, Cursor.mk.injEq, true_and]
  omega

/-- At a token of a buffer two texts are found as one just where the first is found, its last
character is joint, and the second is found when the cursor has advanced over the first. -/
theorem peekPunct_append_iff (h : c.token = .ok x) (hs : s ≠ []) (ht : t ≠ []) :
    ∃ whole first second, c.peekPunct (s ++ t) = .ok whole ∧ c.peekPunct s = .ok first ∧
      (c.advance s.length).peekPunct t = .ok second ∧
      (whole = true ↔ first = true ∧
        (∃ y, token ⟨c.buffer, c.position + s.length - 1⟩ = .ok y ∧ y.trailing = false) ∧
        second = true) := by
  obtain ⟨y, hy⟩ := exists_token_advance h s.length
  obtain ⟨whole, hwhole⟩ := exists_peekPunct h (s ++ t)
  obtain ⟨first, hfirst⟩ := exists_peekPunct h s
  obtain ⟨second, hsecond⟩ := exists_peekPunct hy t
  refine ⟨whole, first, second, hwhole, hfirst, hsecond, ?_⟩
  constructor
  · rintro rfl
    obtain ⟨ts, d, hm⟩ := peekPunct_eq_true_iff.mp hwhole
    obtain ⟨us, vs, m, hu, hl, hv, -⟩ := (matchPunct_append_iff ht).mp hm
    obtain ⟨z, hz, htoken, -⟩ := exists_last_of_matchPunct hu hs
    have hfound : c.peekPunct s = .ok true := peekPunct_eq_true_iff.mpr ⟨us, m, hu⟩
    have hfound' : m.peekPunct t = .ok true := peekPunct_eq_true_iff.mpr ⟨vs, d, hv⟩
    rw [advance_of_matchPunct hu hs] at hsecond
    exact ⟨Except.ok.inj (hfirst.symm.trans hfound), ⟨z, htoken, hl z hz⟩,
      Except.ok.inj (hsecond.symm.trans hfound')⟩
  · rintro ⟨rfl, ⟨z, htoken, hj⟩, rfl⟩
    obtain ⟨us, m, hu⟩ := peekPunct_eq_true_iff.mp hfirst
    rw [advance_of_matchPunct hu hs] at hsecond
    obtain ⟨vs, d, hv⟩ := peekPunct_eq_true_iff.mp hsecond
    obtain ⟨z', hz, htoken', -⟩ := exists_last_of_matchPunct hu hs
    obtain rfl := Except.ok.inj (htoken.symm.trans htoken')
    have hl : ∀ x ∈ us.getLast?, x.trailing = false := by
      intro x hx
      rw [Option.some.inj (hx.symm.trans hz)]
      exact hj
    have hall := peekPunct_eq_true_iff.mpr
      ⟨_, _, (matchPunct_append_iff ht).mpr ⟨us, vs, m, hu, hl, hv, rfl⟩⟩
    exact Except.ok.inj (hwhole.symm.trans hall)

/-- A place may also be counted from the end of the buffer. -/
theorem peekPunct_append_of_range :
    ∃ (c : Cursor) (x : Token), c.position = -4 ∧ c.token = .ok x ∧ ['.', '.'] ≠ [] ∧ ['='] ≠ [] ∧
      c.peekPunct (['.', '.'] ++ ['=']) = .ok true ∧ c.peekPunct ['.', '.'] = .ok true ∧
      (∃ y, token ⟨c.buffer, c.position + 2 - 1⟩ = .ok y ∧ y.trailing = false) ∧
      (c.advance 2).peekPunct ['='] = .ok true := by
  let b : Buffer := ⟨0, [.punct '.' ⟨0, 4, .string none⟩ false, .punct '.' ⟨0, 5, .string none⟩ false,
    .punct '=' ⟨0, 6, .string none⟩ true, .endOfInput ⟨0, 7, .string none⟩], _, rfl, rfl⟩
  have hc : token ⟨b, -4⟩ = .ok (.punct '.' ⟨0, 4, .string none⟩ false) := rfl
  have hs : ['.', '.'] ≠ [] := List.cons_ne_nil _ _
  have ht : ['='] ≠ [] := List.cons_ne_nil _ _
  have hall : peekPunct ⟨b, -4⟩ (['.', '.'] ++ ['=']) = .ok true := by with_unfolding_all rfl
  obtain ⟨whole, first, second, hwhole, hfirst, hsecond, hiff⟩ := peekPunct_append_iff hc hs ht
  obtain ⟨rfl, hj, rfl⟩ := hiff.mp (Except.ok.inj (hwhole.symm.trans hall))
  exact ⟨⟨b, -4⟩, _, rfl, hc, hs, ht, hall, hfirst, hj, hsecond⟩

end Cursor

end Sigil
