import Sigil.Proofs.Family
import Sigil.Proofs.Progress

namespace Sigil

/-- What a parse function does next. It calls an operation, and what that gives decides how it goes
on, or it ends with a result or an error. -/
inductive Move (σ α : Type)
  | call (a : Action) (next : Except Error Answer → σ)
  | finish (r : Except Error α)

/-- A parse function. It is called on the stream with number zero and numbers the forks it makes
after that one. -/
structure Script (σ α : Type) where
  entry : σ
  move : σ → Move σ α

/-- The operation on streams that all have the next higher number. -/
def Action.shift : Action → Action
  | .peek n t => .peek (n + 1) t
  | .peekToken n => .peekToken (n + 1)
  | .isEmpty n => .isEmpty (n + 1)
  | .expect n k => .expect (n + 1) k
  | .parse n p => .parse (n + 1) p
  | .fork n => .fork (n + 1)
  | .advanceTo n m => .advanceTo (n + 1) (m + 1)
  | .error n message => .error (n + 1) message
  | .lookahead n => .lookahead (n + 1)
  | .look l t => .look l t
  | .lookError l => .lookError l

namespace Script

variable {σ α : Type}

/-- A parse function runs from one of its states on a family until it ends. -/
inductive Runs (P : Script σ α) : σ → Family → Except Error α → Family → Prop
  | finish {q : σ} {r : Except Error α} (f : Family) (h : P.move q = .finish r) : Runs P q f r f
  | call {q : σ} {a : Action} {next : Except Error Answer → σ} {x : Except Error Answer}
      {f g k : Family} {r : Except Error α} (h : P.move q = .call a next)
      (ha : f.act a = some (x, g)) (hr : Runs P (next x) g r k) : Runs P q f r k

/-- Where a speculating parse function is: about to fork, at work on the fork, or at its end. -/
inductive Phase (σ α : Type)
  | fork
  | work (q : σ)
  | done (r : Except Error α)

/-- Works on a fork of the stream, and moves the stream there only where that succeeds. -/
def speculate (P : Script σ α) : Script (Phase σ α) α where
  entry := .fork
  move
    | .fork => .call (.fork 0) fun
        | .error e => .done (.error e)
        | .ok _ => .work P.entry
    | .work q =>
      match P.move q with
      | .call a next => .call a.shift fun x => .work (next x)
      | .finish (.error e) => .finish (.error e)
      | .finish (.ok v) => .call (.advanceTo 0 1) fun
          | .error e => .done (.error e)
          | .ok _ => .done (.ok v)
    | .done r => .finish r

/-- The operations one after another, up to the first that fails. -/
def inOrder (as : List Action) :
    Script (List Action × Except Error (List Answer)) (List Answer) where
  entry := (as, .ok [])
  move
    | (_, .error e) => .finish (.error e)
    | ([], .ok ys) => .finish (.ok ys)
    | (a :: as, .ok ys) => .call a fun x => (as, x.map fun y => ys ++ [y])

end Script

/-- The family with one more stream in front of all others. -/
def Family.behind (f : Family) (s : Stream) : Family := ⟨s :: f.streams, f.lookaheads⟩

/-- All streams are where the given one is or later, and there is one at least. -/
structure Family.Beyond (s : Stream) (f : Family) : Prop where
  nonempty : f.streams ≠ []
  reaches : ∀ t ∈ f.streams, s.cursor.Reaches t.cursor

variable {σ α : Type} {P : Script σ α} {q : σ} {s t u : Stream} {f g : Family} {a : Action}
  {n : Nat} {x : Except Error Answer} {r : Except Error α}

namespace Family

theorem getElem?_behind (f : Family) (s : Stream) (n : Nat) :
    (f.behind s).streams[n + 1]? = f.streams[n]? := rfl

theorem moved_behind {β : Type} (f : Family) (s : Stream) (n : Nat) (answer : β → Answer)
    (r : Except Error (β × Stream)) :
    (f.behind s).moved (n + 1) answer r =
      ((f.moved n answer r).1, (f.moved n answer r).2.behind s) := by
  cases r <;> rfl

/-- What is done to the streams behind another one does not touch that one, nor does it look at
it. -/
theorem act_shift (f : Family) (s : Stream) (a : Action) :
    (f.behind s).act a.shift = (f.act a).map fun (x, g) => (x, g.behind s) := by
  cases a with
  | peek | peekToken | isEmpty | error | lookahead | fork | expect | parse =>
      simp only [act, Action.shift, getElem?_behind, moved_behind, Option.map_map]
      rfl
  | look | lookError =>
      simp only [act, Action.shift, Option.map_map]
      rfl
  | advanceTo n m =>
      simp only [act, Action.shift, getElem?_behind, moved_behind, Option.map_bind, Option.map_map,
        Function.comp_def]

namespace Beyond

theorem start (s : Stream) : Beyond s (start s) where
  nonempty := List.cons_ne_nil s []
  reaches := by
    intro t ht
    rw [List.mem_singleton.mp ht]
    exact .refl _

theorem moved {β : Type} {answer : β → Answer} {r : Except Error (β × Stream)} (hf : f.Beyond s)
    (hr : ∀ v t, r = .ok (v, t) → s.cursor.Reaches t.cursor) :
    (f.moved n answer r).2.Beyond s := by
  cases r with
  | error e => exact hf
  | ok v =>
      refine ⟨by simpa [Family.moved] using hf.nonempty, ?_⟩
      intro t ht
      rcases List.mem_or_eq_of_mem_set ht with ht | rfl
      · exact hf.reaches t ht
      · exact hr v.1 _ rfl

end Beyond

/-- Every operation leaves the streams where they were or further on in their buffer. -/
theorem beyond_of_act (hf : f.Beyond s) (h : f.act a = some (x, g)) : g.Beyond s := by
  have hs {n : Nat} {u : Stream} (hu : f.streams[n]? = some u) : s.cursor.Reaches u.cursor :=
    hf.reaches u (List.mem_of_getElem? hu)
  cases a with
  | peek | peekToken | isEmpty | error | lookahead | look | lookError =>
      obtain ⟨u, -, hg⟩ := Option.map_eq_some_iff.mp h
      obtain ⟨-, rfl⟩ := Prod.mk.inj hg
      exact ⟨hf.nonempty, hf.reaches⟩
  | expect n k =>
      obtain ⟨u, hu, hg⟩ := Option.map_eq_some_iff.mp h
      obtain rfl := (congrArg Prod.snd hg : _ = g)
      exact hf.moved fun y t ht => (hs hu).trans (Stream.expect_reaches ht)
  | parse n p =>
      obtain ⟨u, hu, hg⟩ := Option.map_eq_some_iff.mp h
      obtain rfl := (congrArg Prod.snd hg : _ = g)
      exact hf.moved fun i t ht => (hs hu).trans (Punctuation.parse_reaches ht)
  | fork n =>
      obtain ⟨u, hu, hg⟩ := Option.map_eq_some_iff.mp h
      obtain ⟨-, rfl⟩ := Prod.mk.inj hg
      refine ⟨by simp, ?_⟩
      intro t ht
      rcases List.mem_append.mp ht with ht | ht
      · exact hf.reaches t ht
      · rw [List.mem_singleton.mp ht]
        exact hs hu
  | advanceTo n m =>
      obtain ⟨u, hu, h⟩ := Option.bind_eq_some_iff.mp h
      obtain ⟨v, hv, hg⟩ := Option.map_eq_some_iff.mp h
      obtain rfl := (congrArg Prod.snd hg : _ = g)
      refine hf.moved fun y t ht => ?_
      cases hw : u.advanceTo v.cursor with
      | error e => simp [hw, Except.map] at ht
      | ok w =>
          obtain rfl : w = t := by simpa [hw, Except.map] using ht
          rw [(Stream.advanceTo_ok hw).1]
          exact hs hv

end Family

namespace Script

theorem beyond_of_runs (h : P.Runs q f r g) (hf : f.Beyond s) : g.Beyond s := by
  induction h with
  | finish => exact hf
  | call h ha hr ih => exact ih (Family.beyond_of_act hf ha)

/-- Nothing that happens in a run is left to chance. -/
theorem Runs.unique {r' : Except Error α} {g' : Family} (h : P.Runs q f r g)
    (h' : P.Runs q f r' g') : r = r' ∧ g = g' := by
  induction h with
  | finish f h =>
      cases h' with
      | finish _ h' =>
          obtain rfl := Move.finish.inj (h.symm.trans h')
          exact ⟨rfl, rfl⟩
      | call h' => exact absurd (h.symm.trans h') (by simp)
  | call h ha hr ih =>
      cases h' with
      | finish _ h' => exact absurd (h.symm.trans h') (by simp)
      | call h' ha' hr' =>
          obtain ⟨rfl, rfl⟩ := Move.call.inj (h.symm.trans h')
          obtain ⟨rfl, rfl⟩ := Prod.mk.inj (Option.some.inj (ha.symm.trans ha'))
          exact ih hr'

/-- Where speculation leaves the stream: at the fork where that succeeds. -/
def landing (s : Stream) : Except Error α → Family → Stream
  | .ok _, g => g.streams.headD s
  | .error _, _ => s

theorem move_call {next : Except Error Answer → σ} (h : P.move q = .call a next) :
    P.speculate.move (.work q) = .call a.shift fun x => .work (next x) := by
  simp [speculate, h]

theorem move_error {e : Error} (h : P.move q = .finish (.error e)) :
    P.speculate.move (.work q) = .finish (.error e) := by
  simp [speculate, h]

theorem move_ok {v : α} (h : P.move q = .finish (.ok v)) :
    P.speculate.move (.work q) = .call (.advanceTo 0 1) fun
      | .error e => .done (.error e)
      | .ok _ => .done (.ok v) := by
  simp [speculate, h]

/-- The fork is in the buffer of the stream and not before it, so the stream can be moved there. -/
theorem act_commit (hf : f.Beyond s) {v : α} :
    (f.behind s).act (.advanceTo 0 1) = some (.ok .done, f.behind (landing s (.ok v) f)) := by
  obtain ⟨streams, lookaheads⟩ := f
  obtain ⟨t, us, rfl⟩ := List.exists_cons_of_ne_nil hf.nonempty
  have ha := Stream.advanceTo_of_reaches (hf.reaches t List.mem_cons_self)
  simp [Family.act, Family.behind, Family.moved, ha, Except.map, landing]

/-- On the fork a parse function does what it does on the stream, and the stream waits. -/
theorem runs_work (h : P.Runs q f r g) (hf : f.Beyond s) :
    P.speculate.Runs (.work q) (f.behind s) r (g.behind (landing s r g)) := by
  induction h with
  | @finish q r f h =>
      cases r with
      | error e => exact .finish _ (move_error h)
      | ok v => exact .call (move_ok h) (act_commit hf) (.finish _ rfl)
  | call h ha hr ih =>
      refine .call (move_call h) ?_ (ih (Family.beyond_of_act hf ha))
      rw [Family.act_shift, ha]
      rfl

theorem exists_runs_of_work {h' : Family} (h : P.speculate.Runs (.work q) (f.behind s) r h')
    (hf : f.Beyond s) : ∃ g, P.Runs q f r g ∧ h' = g.behind (landing s r g) := by
  generalize hq : Phase.work q = phase at h
  generalize hb : f.behind s = b at h
  induction h generalizing q f with
  | finish b h =>
      subst hq hb
      cases hm : P.move q with
      | call a next => simp [move_call hm] at h
      | finish r =>
          cases r with
          | error e =>
              obtain rfl := Move.finish.inj ((move_error hm).symm.trans h)
              exact ⟨f, .finish f hm, rfl⟩
          | ok v => simp [move_ok hm] at h
  | call h ha hr ih =>
      subst hq hb
      cases hm : P.move q with
      | call a next =>
          obtain ⟨rfl, rfl⟩ := Move.call.inj ((move_call hm).symm.trans h)
          rw [Family.act_shift] at ha
          obtain ⟨⟨x, g⟩, hx, hg⟩ := Option.map_eq_some_iff.mp ha
          obtain ⟨rfl, rfl⟩ := Prod.mk.inj hg
          obtain ⟨k, hk, he⟩ := ih (Family.beyond_of_act hf hx) rfl rfl
          exact ⟨k, .call hm hx hk, he⟩
      | finish r =>
          cases r with
          | error e => simp [move_error hm] at h
          | ok v =>
              obtain ⟨rfl, rfl⟩ := Move.call.inj ((move_ok hm).symm.trans h)
              rw [act_commit (v := v) hf] at ha
              obtain ⟨rfl, rfl⟩ := Prod.mk.inj (Option.some.inj ha)
              have hend : P.speculate.Runs (.done (.ok v)) (f.behind (landing s (.ok v) f)) (.ok v)
                  (f.behind (landing s (.ok v) f)) := .finish _ rfl
              obtain ⟨rfl, rfl⟩ := hend.unique hr
              exact ⟨f, .finish f hm, rfl⟩

/-- The run of a parse function that is called on a stream. -/
def Ends (P : Script σ α) (s : Stream) (r : Except Error α) (g : Family) : Prop :=
  P.Runs P.entry (.start s) r g

theorem ends_speculate_iff {h : Family} :
    P.speculate.Ends s r h ↔ ∃ g, P.Ends s r g ∧ h = g.behind (landing s r g) := by
  have hfork : (Family.start s).act (.fork 0) = some (.ok .done, (Family.start s).behind s) := rfl
  constructor
  · intro hr
    cases hr with
    | finish _ hm => simp [speculate] at hm
    | call hm ha hr =>
        obtain ⟨rfl, rfl⟩ := Move.call.inj hm
        obtain ⟨rfl, rfl⟩ := Prod.mk.inj (Option.some.inj (hfork.symm.trans ha))
        exact exists_runs_of_work hr (.start s)
  · rintro ⟨g, hg, rfl⟩
    exact .call rfl hfork (runs_work hg (.start s))

/-- Working on a fork and moving to it afterwards is as good as working on the stream itself. Both
end alike, and in success the stream is at the same place, with neither objection to moving it.
In failure the stream is where it was, whatever happened on the fork. -/
theorem speculate_agrees (P : Script σ α) (s : Stream) :
    (∀ v h, P.speculate.Ends s (.ok v) h ↔
      ∃ t us ls, P.Ends s (.ok v) ⟨t :: us, ls⟩ ∧ h = ⟨t :: t :: us, ls⟩) ∧
    (∀ e h, P.speculate.Ends s (.error e) h ↔
      ∃ us ls, P.Ends s (.error e) ⟨us, ls⟩ ∧ h = ⟨s :: us, ls⟩) ∧
    ∀ r g, P.Ends s r g → ∃ t us, g.streams = t :: us ∧ s.advanceTo t.cursor = .ok t := by
  have hcons {r : Except Error α} {g : Family} (h : P.Ends s r g) :
      ∃ t us, g.streams = t :: us ∧ s.advanceTo t.cursor = .ok t := by
    have hg := beyond_of_runs h (.start s)
    obtain ⟨t, us, ht⟩ := List.exists_cons_of_ne_nil hg.nonempty
    exact ⟨t, us, ht, Stream.advanceTo_of_reaches (hg.reaches t (ht ▸ List.mem_cons_self))⟩
  refine ⟨?_, ?_, fun r g h => hcons h⟩
  · intro v h
    rw [ends_speculate_iff]
    constructor
    · rintro ⟨⟨streams, ls⟩, hg, rfl⟩
      obtain ⟨t, us, rfl, -⟩ := hcons hg
      exact ⟨t, us, ls, hg, rfl⟩
    · rintro ⟨t, us, ls, hg, rfl⟩
      exact ⟨_, hg, rfl⟩
  · intro e h
    rw [ends_speculate_iff]
    constructor
    · rintro ⟨⟨us, ls⟩, hg, rfl⟩
      exact ⟨us, ls, hg, rfl⟩
    · rintro ⟨us, ls, hg, rfl⟩
      exact ⟨_, hg, rfl⟩

theorem speculate_on_parens :
    ∃ (P Q : Script (List Action × Except Error (List Answer)) (List Answer)) (s : Stream)
        (v : List Answer) (e : Error),
      (∃ g, P.Ends s (.ok v) g ∧ g.positions = [2, 1]) ∧
      (∃ h, P.speculate.Ends s (.ok v) h ∧ h.positions = [2, 2, 1]) ∧
      (∃ g, Q.Ends s (.error e) g ∧ g.positions = [1, 1]) ∧
      ∃ h, Q.speculate.Ends s (.error e) h ∧ h.positions = [0, 1, 1] := by
  let paren (k : TokenKind) (c : Char) : Token := ⟨k, [c], .ofText [c], .toolchain, false⟩
  let b : Buffer := ⟨0, [paren .lparen '(', paren .rparen ')', .endOfInput .toolchain], _, rfl, rfl⟩
  let s : Stream := ⟨⟨b, 0⟩⟩
  let opening : List Action := [.fork 0, .expect 1 .lparen, .advanceTo 0 1]
  have hp : (inOrder (opening ++ [.expect 0 .rparen])).Ends s (.ok _)
      ⟨[⟨⟨b, 2⟩⟩, ⟨⟨b, 1⟩⟩], []⟩ :=
    .call rfl rfl (.call rfl rfl (.call rfl rfl (.call rfl rfl (.finish _ rfl))))
  have hq : (inOrder (opening ++ [.expect 0 .lparen])).Ends s (.error _)
      ⟨[⟨⟨b, 1⟩⟩, ⟨⟨b, 1⟩⟩], []⟩ :=
    .call rfl rfl (.call rfl rfl (.call rfl rfl (.call rfl rfl (.finish _ rfl))))
  have hp' := ((speculate_agrees _ s).1 _ _).mpr ⟨_, _, _, hp, rfl⟩
  have hq' := ((speculate_agrees _ s).2.1 _ _).mpr ⟨_, _, hq, rfl⟩
  exact ⟨_, _, s, _, _, ⟨_, hp, rfl⟩, ⟨_, hp', rfl⟩, ⟨_, hq, rfl⟩, _, hq', rfl⟩

end Script

end Sigil
