import Sigil.Proofs.Progress

namespace Sigil

variable {α β : Type} {c : Cursor} {s t u : Stream} {e : Error} {r : Rule} {rs : List Rule}
  {y : Yield} {ys : List Yield}

namespace Outcome

theorem ofStep_reaches {x : Except Error (α × Stream)}
    (h : ∀ a t, x = .ok (a, t) → s.cursor.Reaches t.cursor) :
    s.cursor.Reaches (ofStep s x).2.cursor := by
  cases x with
  | error e => exact .refl _
  | ok a => exact h a.1 a.2 rfl

theorem cons_reaches {o : Outcome α} {rest : Stream → Outcome (List α)}
    (ho : c.Reaches o.2.cursor) (hr : ∀ t : Stream, t.cursor.Reaches (rest t).2.cursor) :
    c.Reaches (o.cons rest).2.cursor := by
  obtain ⟨x, t⟩ := o
  cases x with
  | error e => exact ho
  | ok a => exact ho.trans (hr t)

theorem repeatWhile_reaches {ahead : Stream → Except Error Bool} {body : Stream → Outcome α}
    (hb : ∀ t : Stream, t.cursor.Reaches (body t).2.cursor) (s : Stream) :
    s.cursor.Reaches (repeatWhile ahead body s).2.cursor := by
  fun_induction repeatWhile ahead body s with
  | case1 s e h => exact .refl _
  | case2 s h => exact .refl _
  | case3 s h ih =>
      refine cons_reaches (hb s) fun t => ?_
      split
      next hlt => exact ih t hlt
      next => exact .refl _

theorem map_eq_error {o : Outcome α} {f : α → β} (h : o.map f = (.error e, t)) :
    o = (.error e, t) := by
  obtain ⟨x, u⟩ := o
  cases x with
  | error d => simpa [map, Except.map] using h
  | ok a => simp [map, Except.map] at h

theorem map_eq_ok {o : Outcome α} {f : α → β} {b : β} (h : o.map f = (.ok b, t)) :
    ∃ a, o = (.ok a, t) ∧ b = f a := by
  obtain ⟨x, u⟩ := o
  cases x with
  | error d => simp [map, Except.map] at h
  | ok a =>
      simp only [map, Except.map, Prod.mk.injEq, Except.ok.injEq] at h
      obtain ⟨rfl, rfl⟩ := h
      exact ⟨a, rfl, rfl⟩

theorem ofStep_eq_error {x : Except Error (α × Stream)} (h : ofStep s x = (.error e, t)) :
    t = s := by
  cases x with
  | error d => exact (Prod.mk.inj h).2.symm
  | ok a => simp [ofStep] at h

theorem ofStep_eq_ok {x : Except Error (α × Stream)} {a : α} (h : ofStep s x = (.ok a, t)) :
    x = .ok (a, t) := by
  cases x with
  | error d => simp [ofStep] at h
  | ok b =>
      obtain ⟨ha, ht⟩ := Prod.mk.inj h
      rw [← Except.ok.inj ha, ← ht]

end Outcome

namespace Rule

mutual

theorem run_reaches (r : Rule) (s : Stream) : s.cursor.Reaches (r.run s).2.cursor := by
  cases r with
  | expect k =>
      rw [run]
      exact Outcome.ofStep_reaches fun x t h => Stream.expect_reaches h
  | parse p =>
      rw [run]
      exact Outcome.ofStep_reaches fun i t h => Punctuation.parse_reaches h
  | punct text =>
      rw [run]
      exact Outcome.ofStep_reaches fun ls t h => Stream.parsePunct_reaches h
  | fail message =>
      rw [run]
      exact .refl _
  | loop target body =>
      rw [run]
      have hb (t : Stream) : t.cursor.Reaches ((runAll body t).map Yield.list).2.cursor :=
        runAll_reaches body t
      exact Outcome.repeatWhile_reaches hb s
  | choose choices =>
      rw [run]
      exact runChoice_reaches choices s.lookahead s

theorem runAll_reaches (rs : List Rule) (s : Stream) :
    s.cursor.Reaches (runAll rs s).2.cursor := by
  cases rs with
  | nil => exact .refl _
  | cons r rs =>
      rw [runAll]
      exact Outcome.cons_reaches (run_reaches r s) fun t => runAll_reaches rs t

theorem runChoice_reaches (choices : List (Target × List Rule)) (l : Lookahead) (s : Stream) :
    s.cursor.Reaches (runChoice choices l s).2.cursor := by
  cases choices with
  | nil =>
      rw [runChoice]
      split <;> exact .refl _
  | cons choice choices =>
      obtain ⟨target, body⟩ := choice
      rw [runChoice]
      split
      next => exact .refl _
      next => exact runAll_reaches body s
      next => exact runChoice_reaches choices _ s

end

/-- A rule that is a single operation and takes tokens where it succeeds. -/
def isStep : Rule → Bool
  | .expect _ | .parse _ => true
  | _ => false

theorem eq_of_step_error (hr : r.isStep = true) (h : r.run s = (.error e, t)) : t = s := by
  cases r with
  | expect | parse =>
      rw [run] at h
      exact Outcome.ofStep_eq_error (Outcome.map_eq_error h)
  | _ => simp [isStep] at hr

/-- At the last token there is nothing to take but the end of input, which stays. Anywhere else a
step that succeeds moves the stream. -/
theorem moves_of_step (hr : r.isStep = true) (h : r.run s = (.ok y, t)) :
    s.cursor.AtLast ∧ t = s ∨ ¬ s.cursor.AtLast ∧ s.cursor.position < t.cursor.position := by
  cases r with
  | expect k =>
      rw [run] at h
      obtain ⟨x, hx, -⟩ := Outcome.map_eq_ok h
      obtain ⟨hx, -, ht⟩ := Stream.expect_ok (Outcome.ofStep_eq_ok hx)
      rcases Cursor.advance_one_cases hx with ⟨hl, ha⟩ | ⟨hl, ha⟩
      · exact .inl ⟨hl, congrArg Stream.mk (ht.trans ha)⟩
      · refine .inr ⟨hl, ?_⟩
        rw [ht, ha]
        exact Int.lt_succ _
  | parse p =>
      rw [run] at h
      obtain ⟨i, hi, -⟩ := Outcome.map_eq_ok h
      exact .inr (Punctuation.parse_moves (Outcome.ofStep_eq_ok hi))
  | _ => simp [isStep] at hr

theorem runAll_cons_of_error (h : r.run s = (.error e, t)) (rs : List Rule) :
    runAll (r :: rs) s = (.error e, t) := by
  rw [runAll, h]
  rfl

theorem runAll_cons_of_ok (h : r.run s = (.ok y, u)) (rs : List Rule) :
    runAll (r :: rs) s = (runAll rs u).map (y :: ·) := by
  rw [runAll, h]
  rfl

/-- Steps in a row stop at the first that fails, where those before it have led. -/
theorem exists_of_runAll_error (hs : ∀ r ∈ rs, r.isStep = true)
    (h : runAll rs s = (.error e, t)) :
    ∃ before r after ys, rs = before ++ r :: after ∧ runAll before s = (.ok ys, t) ∧
      r.run t = (.error e, t) := by
  induction rs generalizing s with
  | nil => simp [runAll] at h
  | cons r rs ih =>
      obtain ⟨hr, hs⟩ := List.forall_mem_cons.mp hs
      rcases hx : r.run s with ⟨x, u⟩
      cases x with
      | error d =>
          rw [runAll_cons_of_error hx, Prod.mk.injEq, Except.error.injEq] at h
          obtain ⟨rfl, rfl⟩ := h
          obtain rfl := eq_of_step_error hr hx
          exact ⟨[], r, rs, [], rfl, rfl, hx⟩
      | ok y =>
          rw [runAll_cons_of_ok hx] at h
          obtain ⟨before, r', after, ys, rfl, hb, hr'⟩ := ih hs (Outcome.map_eq_error h)
          refine ⟨r :: before, r', after, y :: ys, rfl, ?_, hr'⟩
          rw [runAll_cons_of_ok hx, hb]
          rfl

/-- Steps that all succeed move the stream, unless there are none or it is at the last token. -/
theorem position_of_runAll (hs : ∀ r ∈ rs, r.isStep = true) (h : runAll rs s = (.ok ys, t)) :
    t.cursor.position = s.cursor.position ↔ rs = [] ∨ s.cursor.AtLast := by
  induction rs generalizing s ys with
  | nil =>
      obtain ⟨-, rfl⟩ := Prod.mk.inj h
      simp
  | cons r rs ih =>
      obtain ⟨hr, hs⟩ := List.forall_mem_cons.mp hs
      rcases hx : r.run s with ⟨x, u⟩
      cases x with
      | error d => simp [runAll_cons_of_error hx] at h
      | ok y =>
          rw [runAll_cons_of_ok hx] at h
          obtain ⟨zs, hu, -⟩ := Outcome.map_eq_ok h
          rcases moves_of_step hr hx with ⟨hl, rfl⟩ | ⟨hl, hlt⟩
          · simp [ih hs hu, hl]
          · have hle : u.cursor.position ≤ t.cursor.position := by
              have hreach := (runAll_reaches rs u).position
              rwa [hu] at hreach
            have hne : t.cursor.position ≠ s.cursor.position := by omega
            simp [hne, hl]

end Rule

namespace Parsable

theorem run_reaches (s : Stream) (x : Parsable) : s.cursor.Reaches (x.run s).2.cursor := by
  cases x with
  | type p => exact Outcome.ofStep_reaches fun i t h => Punctuation.parse_reaches h
  | rules rs => exact Rule.runAll_reaches rs s

theorem exists_run_unclosed_paren : ∃ s got t, Stream.open? 0 ['(', '1'] = .ok s ∧
    run s (.rules [.expect .lparen, .expect .rparen]) =
      (.error (.parse "expected rparen" got), t) ∧
    s.cursor.position = 0 ∧ t.cursor.position = 1 := by
  let place (column : Nat) : Location := .inSource (.string none) 0 column
  let one : Token := ⟨.integer, ['1'], .integer 1, place 1, true⟩
  let b : Buffer := ⟨0, [⟨.lparen, ['('], .ofText ['('], place 0, false⟩, one,
    .endOfInput (place 2)], _, rfl, rfl⟩
  refine ⟨⟨⟨b, 0⟩⟩, one, ⟨⟨b, 1⟩⟩, ?_, rfl, rfl, rfl⟩
  with_unfolding_all rfl

/-- What a failure leaves behind. A type that cannot be parsed takes nothing. A sequence of steps
that fails leaves the stream where the steps before the failing one have led: that is where it was
only if the first step failed, or at the last token, which is never taken. Nothing moves a stream
backwards or out of its buffer. -/
theorem run_error (s : Stream) :
    (∀ p e t, run s (.type p) = (.error e, t) → t = s) ∧
      (∀ rs e t, (∀ r ∈ rs, r.isStep = true) → run s (.rules rs) = (.error e, t) →
        ∃ before r after ys, rs = before ++ r :: after ∧
          run s (.rules before) = (.ok (.list ys), t) ∧ r.run t = (.error e, t) ∧
          (t.cursor.position = s.cursor.position ↔ before = [] ∨ s.cursor.AtLast)) ∧
      ∀ x : Parsable, s.cursor.Reaches (x.run s).2.cursor := by
  refine ⟨?_, ?_, run_reaches s⟩
  · intro p e t h
    exact Outcome.ofStep_eq_error (Outcome.map_eq_error h)
  · intro rs e t hs h
    obtain ⟨before, r, after, ys, rfl, hb, hr⟩ :=
      Rule.exists_of_runAll_error hs (Outcome.map_eq_error h)
    have hbefore : ∀ r ∈ before, r.isStep = true :=
      fun r hm => hs r (List.mem_append_left _ hm)
    refine ⟨before, r, after, ys, rfl, ?_, hr, Rule.position_of_runAll hbefore hb⟩
    rw [run, hb]
    rfl

/-- A failure does not put back what was taken before it. -/
theorem not_position_of_error : ¬ ∀ (s t : Stream) (x : Parsable) (message : String) (got : Token),
    run s x = (.error (.parse message got), t) → t.cursor.position = s.cursor.position := by
  intro h
  obtain ⟨s, got, t, -, hr, hs, ht⟩ := exists_run_unclosed_paren
  have hp := h s t _ _ got hr
  rw [hs, ht] at hp
  contradiction

theorem run_error_of_unclosed_paren :
    ∃ s e t, (∀ r ∈ [Rule.expect .lparen, .expect .rparen], r.isStep = true) ∧
      run s (.rules [.expect .lparen, .expect .rparen]) = (.error e, t) ∧
      ∃ before r after, [Rule.expect .lparen, .expect .rparen] = before ++ r :: after ∧
        before ≠ [] ∧ r.run t = (.error e, t) := by
  obtain ⟨s, got, t, -, hr, hs, ht⟩ := exists_run_unclosed_paren
  have hsteps : ∀ r ∈ [Rule.expect .lparen, .expect .rparen], r.isStep = true := by
    simp [Rule.isStep]
  obtain ⟨before, r, after, ys, hrs, -, hfail, hpos⟩ := (run_error s).2.1 _ _ _ hsteps hr
  refine ⟨s, _, t, hsteps, hr, before, r, after, hrs, ?_, hfail⟩
  intro hb
  have hp := hpos.mpr (.inl hb)
  rw [hs, ht] at hp
  contradiction

end Parsable

end Sigil
