import Sigil.Proofs.Operations

namespace Sigil

/-- Streams that were forked from one another, in the order in which they were made, and the
lookaheads that were made on them. -/
structure Family where
  streams : List Stream
  lookaheads : List Lookahead

/-- An operation on a member of a family, which is named by its number. -/
inductive Action
  | peek (s : Nat) (t : Target)
  | peekToken (s : Nat)
  | isEmpty (s : Nat)
  | expect (s : Nat) (k : TokenKind)
  | parse (s : Nat) (p : Punctuation)
  | fork (s : Nat)
  | advanceTo (s other : Nat)
  | error (s : Nat) (message : String)
  | lookahead (s : Nat)
  | look (l : Nat) (t : Target)
  | lookError (l : Nat)

/-- What an action gives. An error that is only made and not raised is an answer. -/
inductive Answer
  | done
  | truth (b : Bool)
  | token (t : Token)
  | item (i : Instance)
  | problem (e : Error)

namespace Family

def start (s : Stream) : Family := ⟨[s], []⟩

def positions (f : Family) : List Int := f.streams.map (·.cursor.position)

/-- Puts the moved stream in the place of the one that an operation succeeded on. -/
def moved {α : Type} (f : Family) (n : Nat) (answer : α → Answer) :
    Except Error (α × Stream) → Except Error Answer × Family
  | .error e => (.error e, f)
  | .ok (a, s) => (.ok (answer a), { f with streams := f.streams.set n s })

/-- The result of an action and the family after it. There is none where the family has no such
member. -/
def act (f : Family) : Action → Option (Except Error Answer × Family)
  | .peek n t => f.streams[n]?.map fun s => ((s.peek t).map .truth, f)
  | .peekToken n => f.streams[n]?.map fun s => (s.cursor.token.map .token, f)
  | .isEmpty n => f.streams[n]?.map fun s => (s.isEmpty.map .truth, f)
  | .expect n k => f.streams[n]?.map fun s => f.moved n .token (s.expect k)
  | .parse n p => f.streams[n]?.map fun s => f.moved n .item (p.parse s)
  | .fork n => f.streams[n]?.map fun s => (.ok .done, { f with streams := f.streams ++ [s] })
  | .advanceTo n m => f.streams[n]?.bind fun s => f.streams[m]?.map fun t =>
      f.moved n (fun () => .done) ((s.advanceTo t.cursor).map ((), ·))
  | .error n message => f.streams[n]?.map fun s => ((s.error message).map .problem, f)
  | .lookahead n => f.streams[n]?.map fun s =>
      (.ok .done, { f with lookaheads := f.lookaheads ++ [s.lookahead] })
  | .look n t => f.lookaheads[n]?.map fun l =>
      ((l.peek t).1.map .truth, { f with lookaheads := f.lookaheads.set n (l.peek t).2 })
  | .lookError n => f.lookaheads[n]?.map fun l => (l.error.map .problem, f)

/-- The family after some actions, of which each may succeed or fail. -/
def run (f : Family) : List Action → Option Family
  | [] => some f
  | a :: as => (f.act a).bind fun (_, g) => g.run as

end Family

/-- The positions of the streams after an action that succeeds, where `last` is that of the last
token. -/
def Action.move (last : Int) (ps : List Int) : Action → List Int
  | .expect n _ => ps.modify n fun p => min (p + 1) last
  | .parse n p => ps.modify n (· + p.symbol.length)
  | .advanceTo n m => (ps[m]?.map fun q => ps.set n q).getD ps
  | .fork n => ps ++ ps[n]?.toList
  | _ => ps

/-- All streams and lookaheads are at tokens of the buffer. -/
structure Family.Within (b : Buffer) (f : Family) : Prop where
  streams : ∀ s ∈ f.streams, s.cursor.Within b
  lookaheads : ∀ l ∈ f.lookaheads, l.cursor.Within b

/-- No position is before the one it was. -/
def Forward (ps qs : List Int) : Prop :=
  ∀ (i : Nat) (p : Int), ps[i]? = some p → ∃ q, qs[i]? = some q ∧ p ≤ q

variable {α : Type} {b : Buffer} {s t : Stream} {f g : Family} {a : Action}
  {ps qs rs : List Int} {n m : Nat}

namespace Forward

theorem refl (ps : List Int) : Forward ps ps := fun _ p hp => ⟨p, hp, Int.le_refl p⟩

theorem trans (h : Forward ps qs) (h' : Forward qs rs) : Forward ps rs := by
  intro i p hp
  obtain ⟨q, hq, hle⟩ := h i p hp
  obtain ⟨r, hr, hle'⟩ := h' i q hq
  exact ⟨r, hr, Int.le_trans hle hle'⟩

theorem append (ps qs : List Int) : Forward ps (ps ++ qs) := by
  intro i p hp
  have hi := (List.getElem?_eq_some_iff.mp hp).1
  exact ⟨p, by rw [List.getElem?_append_left hi, hp], Int.le_refl p⟩

theorem set {p q : Int} (hp : ps[n]? = some p) (hle : p ≤ q) : Forward ps (ps.set n q) := by
  intro i p' hp'
  by_cases hi : n = i
  · subst i
    obtain rfl : p = p' := Option.some.inj (hp.symm.trans hp')
    exact ⟨q, List.getElem?_set_self (List.getElem?_eq_some_iff.mp hp).1, hle⟩
  · exact ⟨p', by rw [List.getElem?_set_ne hi, hp'], Int.le_refl p'⟩

end Forward

namespace Family

/-- What an action may do to a family whose members are all at tokens of one buffer. -/
structure Step (b : Buffer) (f : Family) (a : Action) (x : Except Error Answer × Family) :
    Prop where
  within : x.2.Within b
  forward : Forward f.positions x.2.positions
  moves : ∀ answer, x.1 = .ok answer →
    x.2.positions = a.move (b.tokens.length - 1) f.positions
  keeps : ∀ e, x.1 = .error e → x.2.streams = f.streams ∧ e.isRefusal = true

theorem Within.start (hn : n < b.tokens.length) : (start ⟨⟨b, n⟩⟩).Within b where
  streams := by
    intro s hs
    rw [List.mem_singleton.mp hs]
    exact ⟨n, hn, rfl⟩
  lookaheads := by simp [Family.start]

theorem Within.stream (hf : f.Within b) (hs : f.streams[n]? = some s) : s.cursor.Within b :=
  hf.streams s (List.mem_of_getElem? hs)

theorem Within.lookahead {l : Lookahead} (hf : f.Within b) (hl : f.lookaheads[n]? = some l) :
    l.cursor.Within b :=
  hf.lookaheads l (List.mem_of_getElem? hl)

theorem getElem?_positions (hs : f.streams[n]? = some s) :
    f.positions[n]? = some s.cursor.position := by
  rw [positions, List.getElem?_map, hs]
  rfl

theorem modify_positions (hs : f.streams[n]? = some s) (φ : Int → Int) :
    f.positions.modify n φ = f.positions.set n (φ s.cursor.position) := by
  rw [List.modify_eq_set_getElem?, getElem?_positions hs]
  rfl

/-- An action that leaves the streams alone, whatever it asks. -/
theorem step_still {r : Except Error Answer} {ls : List Lookahead} (hf : f.Within b)
    (hl : ∀ l ∈ ls, l.cursor.Within b) (hr : Refuses r)
    (ha : a.move (b.tokens.length - 1) f.positions = f.positions) :
    Step b f a (r, ⟨f.streams, ls⟩) where
  within := ⟨hf.streams, hl⟩
  forward := .refl _
  moves := fun _ _ => ha.symm
  keeps := fun e he => ⟨rfl, hr e he⟩

/-- An action that moves the stream it is called on where it succeeds. -/
theorem step_moved {r : Except Error (α × Stream)} {answer : α → Answer} (hf : f.Within b)
    (hs : f.streams[n]? = some s) (hr : Refuses r)
    (ht : ∀ x t, r = .ok (x, t) → t.cursor.Within b ∧ s.cursor.position ≤ t.cursor.position ∧
      a.move (b.tokens.length - 1) f.positions = f.positions.set n t.cursor.position) :
    Step b f a (f.moved n answer r) := by
  cases r with
  | error e =>
      refine ⟨hf, .refl _, by simp [moved], ?_⟩
      intro d hd
      exact ⟨rfl, Except.error.inj hd ▸ hr e rfl⟩
  | ok x =>
      obtain ⟨x, t⟩ := x
      obtain ⟨hw, hle, ha⟩ := ht x t rfl
      have hp : (f.moved n answer (.ok (x, t))).2.positions =
          f.positions.set n t.cursor.position := List.map_set
      refine ⟨⟨?_, hf.lookaheads⟩, ?_, ?_, by simp [moved]⟩
      · intro u hu
        rcases List.mem_or_eq_of_mem_set hu with hu | rfl
        · exact hf.streams u hu
        · exact hw
      · rw [hp]
        exact .set (getElem?_positions hs) hle
      · intro _ _
        rw [hp, ha]

theorem step_fork (hf : f.Within b) (hs : f.streams[n]? = some s) :
    Step b f (.fork n) (.ok .done, { f with streams := f.streams ++ [s] }) := by
  have hp : positions ⟨f.streams ++ [s], f.lookaheads⟩ = f.positions ++ [s.cursor.position] :=
    List.map_append
  refine ⟨⟨?_, hf.lookaheads⟩, hp ▸ .append _ _, ?_, by simp⟩
  · intro t ht
    rcases List.mem_append.mp ht with ht | ht
    · exact hf.streams t ht
    · rw [List.mem_singleton.mp ht]
      exact hf.stream hs
  · intro _ _
    rw [hp, Action.move, getElem?_positions hs]
    rfl

theorem step_expect (hf : f.Within b) (hs : f.streams[n]? = some s) (k : TokenKind) :
    Step b f (.expect n k) (f.moved n .token (s.expect k)) := by
  obtain ⟨hr, hok⟩ := Stream.expect_cases (hf.stream hs) k
  refine step_moved hf hs hr ?_
  intro x t ht
  obtain ⟨i, hi, hc⟩ := hf.stream hs
  rw [Action.move, modify_positions hs, hok x t ht, hc]
  refine ⟨Cursor.advance_one hi, ?_, rfl⟩
  simp only [Cursor.advance]
  omega

theorem step_parse (hf : f.Within b) (hs : f.streams[n]? = some s) (p : Punctuation) :
    Step b f (.parse n p) (f.moved n .item (p.parse s)) := by
  obtain ⟨hr, hok⟩ := p.parse_cases (hf.stream hs)
  refine step_moved hf hs hr ?_
  intro x t ht
  obtain ⟨hw, hp⟩ := hok x t ht
  rw [Action.move, modify_positions hs, hp]
  exact ⟨hw, by omega, rfl⟩

theorem step_advanceTo (hf : f.Within b) (hs : f.streams[n]? = some s)
    (ht : f.streams[m]? = some t) : Step b f (.advanceTo n m)
      (f.moved n (fun () => .done) ((s.advanceTo t.cursor).map ((), ·))) := by
  obtain ⟨hr, hok⟩ := Stream.advanceTo_cases (hf.stream hs) (hf.stream ht)
  refine step_moved hf hs (hr.map _) ?_
  intro x u hu
  cases ha : s.advanceTo t.cursor with
  | error e => simp [ha, Except.map] at hu
  | ok v =>
      obtain rfl : v = u := by simpa [ha, Except.map] using hu
      obtain ⟨hc, hle⟩ := hok v ha
      rw [Action.move, getElem?_positions ht, hc]
      exact ⟨hf.stream ht, hle, rfl⟩

theorem step_of_act {x : Except Error Answer × Family} (hf : f.Within b) (h : f.act a = some x) :
    Step b f a x := by
  cases a with
  | peek n t =>
      obtain ⟨s, hs, rfl⟩ := Option.map_eq_some_iff.mp h
      exact step_still hf hf.lookaheads ((t.peek_refuses (hf.stream hs)).map _) rfl
  | peekToken n =>
      obtain ⟨s, hs, rfl⟩ := Option.map_eq_some_iff.mp h
      exact step_still hf hf.lookaheads ((hf.stream hs).token_refuses.map _) rfl
  | isEmpty n =>
      obtain ⟨s, hs, rfl⟩ := Option.map_eq_some_iff.mp h
      exact step_still hf hf.lookaheads (((hf.stream hs).token_refuses.map _).map _) rfl
  | error n message =>
      obtain ⟨s, hs, rfl⟩ := Option.map_eq_some_iff.mp h
      exact step_still hf hf.lookaheads (((hf.stream hs).token_refuses.map _).map _) rfl
  | lookahead n =>
      obtain ⟨s, hs, rfl⟩ := Option.map_eq_some_iff.mp h
      refine step_still hf ?_ (.ok _) rfl
      intro l hl
      rcases List.mem_append.mp hl with hl | hl
      · exact hf.lookaheads l hl
      · rw [List.mem_singleton.mp hl]
        exact hf.stream hs
  | look n t =>
      obtain ⟨l, hl, rfl⟩ := Option.map_eq_some_iff.mp h
      obtain ⟨hr, hc⟩ := l.peek_cases (hf.lookahead hl) t
      refine step_still hf ?_ (hr.map _) rfl
      intro m hm
      rcases List.mem_or_eq_of_mem_set hm with hm | rfl
      · exact hf.lookaheads m hm
      · exact hc ▸ hf.lookahead hl
  | lookError n =>
      obtain ⟨l, hl, rfl⟩ := Option.map_eq_some_iff.mp h
      exact step_still hf hf.lookaheads (((hf.lookahead hl).token_refuses.map _).map _) rfl
  | fork n =>
      obtain ⟨s, hs, rfl⟩ := Option.map_eq_some_iff.mp h
      exact step_fork hf hs
  | expect n k =>
      obtain ⟨s, hs, rfl⟩ := Option.map_eq_some_iff.mp h
      exact step_expect hf hs k
  | parse n p =>
      obtain ⟨s, hs, rfl⟩ := Option.map_eq_some_iff.mp h
      exact step_parse hf hs p
  | advanceTo n m =>
      obtain ⟨s, hs, h⟩ := Option.bind_eq_some_iff.mp h
      obtain ⟨t, ht, rfl⟩ := Option.map_eq_some_iff.mp h
      exact step_advanceTo hf hs ht

/-- What every step keeps, every run keeps. -/
theorem within_of_run {as : List Action} (hf : f.Within b) (h : f.run as = some g) :
    g.Within b ∧ Forward f.positions g.positions := by
  induction as generalizing f with
  | nil =>
      obtain rfl := Option.some.inj h
      exact ⟨hf, .refl _⟩
  | cons a as ih =>
      obtain ⟨x, hx, h⟩ := Option.bind_eq_some_iff.mp h
      have hstep := step_of_act hf hx
      obtain ⟨hg, hle⟩ := ih hstep.within h
      exact ⟨hg, hstep.forward.trans hle⟩

theorem Within.position (hf : f.Within b) (hs : s ∈ f.streams) :
    s.cursor.buffer = b ∧ 0 ≤ s.cursor.position ∧ s.cursor.position ≤ b.tokens.length - 1 := by
  obtain ⟨i, hi, hc⟩ := hf.streams s hs
  rw [hc]
  refine ⟨rfl, Int.natCast_nonneg i, ?_⟩
  dsimp only
  omega

/-- However many streams are forked from one and in whatever order they are used, all of them stay
at tokens of the buffer. An action that succeeds moves the streams as `Action.move` says, one that
fails leaves them where they were and has refused what it was asked for, and no stream ever goes
back. -/
theorem positions_of_run (hn : n < b.tokens.length) {before : List Action}
    (hf : (start ⟨⟨b, n⟩⟩).run before = some f) :
    (∀ s ∈ f.streams, s.cursor.buffer = b ∧
      0 ≤ s.cursor.position ∧ s.cursor.position ≤ b.tokens.length - 1) ∧
    (∀ a r g, f.act a = some (r, g) →
      (∀ answer, r = .ok answer → g.positions = a.move (b.tokens.length - 1) f.positions) ∧
      ∀ e, r = .error e →
        g.streams = f.streams ∧ e.isRefusal = true ∧ e.isOutOfRange = false) ∧
    ∀ after g, f.run after = some g →
      ∀ (i : Nat) (p : Int), f.positions[i]? = some p → ∃ q, g.positions[i]? = some q ∧ p ≤ q := by
  have hw := (within_of_run (.start hn) hf).1
  refine ⟨fun s hs => hw.position hs, ?_, ?_⟩
  · intro a r g h
    have hstep := step_of_act hw h
    refine ⟨hstep.moves, fun e he => ?_⟩
    obtain ⟨hs, hr⟩ := hstep.keeps e he
    exact ⟨hs, hr, isOutOfRange_of_isRefusal hr⟩
  · intro after g h
    exact (within_of_run hw h).2

theorem positions_of_fork :
    ∃ (b : Buffer) (f g : Family) (e : Error), b.tokens.length = 2 ∧
      (start ⟨⟨b, (0 : Nat)⟩⟩).run [.fork 0, .expect 1 .punct, .expect 1 .eof] = some f ∧
      f.positions = [0, 1] ∧ f.act (.advanceTo 1 0) = some (.error e, g) ∧
      g.streams = f.streams ∧ e.isOutOfRange = false := by
  let b : Buffer := ⟨0, [.punct '<' .toolchain true, .endOfInput .toolchain], _, rfl, rfl⟩
  let f : Family := ⟨[⟨⟨b, 0⟩⟩, ⟨⟨b, 1⟩⟩], []⟩
  have hn : 0 < b.tokens.length := by decide
  have hf : (start ⟨⟨b, (0 : Nat)⟩⟩).run [.fork 0, .expect 1 .punct, .expect 1 .eof] = some f := rfl
  have ha : f.act (.advanceTo 1 0) = some (.error .backwards, f) := rfl
  obtain ⟨hs, -, he⟩ := ((positions_of_run hn hf).2.1 _ _ _ ha).2 _ rfl
  exact ⟨b, f, f, _, rfl, hf, rfl, ha, hs, he⟩

end Family

end Sigil
