import Sigil.Proofs.Family

/-!
What a lookahead was asked for can be read off its error. Neither the names of token types nor the
symbols of declared types hold a space, so the words of the message are those that were put together
for it, whatever commas there are among them.
-/

namespace Sigil

open Text

/-- Names as they stand in a list: each but the last has a comma behind it. -/
def commas : List Text → List Text
  | [] => []
  | [t] => [t]
  | t :: u :: ts => (t ++ [',']) :: commas (u :: ts)

namespace Lookahead

/-- The words of the message for the names that were tried. -/
def words : List Text → List Text
  | [] => ["unexpected".toList, "token".toList]
  | [t] => ["expected".toList, t]
  | [t, u] => ["expected".toList, t, "or".toList, u]
  | ts => "expected".toList :: "one".toList :: "of:".toList :: commas ts

end Lookahead

/-- The names of the targets, without those that have none. -/
def Target.names (ts : List Target) : List String := ts.filterMap fun t => t.display.toOption

/-- What an action asks the lookahead with a number for. -/
def Action.asked (k : Nat) : Action → List Target
  | .look l t => if l = k then [t] else []
  | _ => []

/-- A lookahead that a stream has made at a cursor and that was asked for these targets since, in
this order. In between the family of the stream may have done anything else. -/
def Lookahead.Made (c : Cursor) (ts : List Target) (l : Lookahead) : Prop :=
  ∃ (f g : Family) (n : Nat) (s : Stream) (as : List Action),
    f.streams[n]? = some s ∧ s.cursor = c ∧ f.run (.lookahead n :: as) = some g ∧
      g.lookaheads[f.lookaheads.length]? = some l ∧
      as.flatMap (Action.asked f.lookaheads.length) = ts

variable {ts us : List Text} {ds es : List String}

theorem length_commas (ts : List Text) : (commas ts).length = ts.length := by
  fun_induction commas ts with
  | case1 => rfl
  | case2 t => rfl
  | case3 t u ts ih => exact congrArg (· + 1) ih

theorem length_eq_of_commas (h : commas ts = commas us) : ts.length = us.length := by
  rw [← length_commas ts, h, length_commas]

theorem commas_injective (h : commas ts = commas us) : ts = us := by
  have hl := length_eq_of_commas h
  fun_induction commas ts generalizing us with
  | case1 => exact (List.eq_nil_of_length_eq_zero hl.symm).symm
  | case2 t =>
      obtain ⟨u, rfl⟩ := List.length_eq_one_iff.mp hl.symm
      exact h
  | case3 t t' ts ih =>
      obtain ⟨u, us, rfl⟩ := List.exists_cons_of_length_eq_add_one hl.symm
      obtain ⟨u', us, rfl⟩ := List.exists_cons_of_length_eq_add_one (Nat.succ_injective hl.symm)
      obtain ⟨hu, htail⟩ := List.cons.inj h
      rw [List.append_cancel_right hu, ih htail (length_eq_of_commas htail)]

theorem intercalate_commas (ts : List Text) :
    [',', ' '].intercalate ts = [' '].intercalate (commas ts) := by
  fun_induction commas ts with
  | case1 => rfl
  | case2 t => rfl
  | case3 t u ts ih =>
      obtain ⟨v, vs, hv⟩ := List.exists_cons_of_length_eq_add_one (length_commas (u :: ts))
      rw [List.intercalate_cons_cons, ih, hv, List.intercalate_cons_cons]
      simp

theorem mem_commas {w : Text} (hw : w ∈ commas ts) :
    ∃ t ∈ ts, w = t ∨ w = t ++ [','] := by
  fun_induction commas ts with
  | case1 => contradiction
  | case2 t => exact ⟨t, List.mem_singleton_self t, .inl (List.mem_singleton.mp hw)⟩
  | case3 t u ts ih =>
      rcases List.mem_cons.mp hw with rfl | hw
      · exact ⟨t, List.mem_cons_self, .inr rfl⟩
      · obtain ⟨v, hv, hw⟩ := ih hw
        exact ⟨v, List.mem_cons_of_mem t hv, hw⟩

namespace Lookahead

theorem toList_messageOf (ds : List String) :
    (messageOf ds).toList = [' '].intercalate (words (ds.map String.toList)) := by
  match ds with
  | [] => rfl
  | [d] => simp [messageOf, words]
  | [d, e] => simp [messageOf, words]
  | d :: e :: f :: ds =>
      have hlist : (", ".intercalate (d :: e :: f :: ds)).toList =
          [' '].intercalate (commas ((d :: e :: f :: ds).map String.toList)) := by
        rw [← intercalate_commas, String.toList_intercalate]
        rfl
      have hwords : words ((d :: e :: f :: ds).map String.toList) = "expected".toList ::
          "one".toList :: "of:".toList :: commas ((d :: e :: f :: ds).map String.toList) := rfl
      obtain ⟨w, ws, hw⟩ :=
        List.exists_cons_of_length_eq_add_one (length_commas ((d :: e :: f :: ds).map String.toList))
      rw [hwords, messageOf, String.toList_append, hlist, hw, List.intercalate_cons_cons,
        List.intercalate_cons_cons, List.intercalate_cons_cons]
      · rfl
      all_goals simp

theorem words_ne_nil (ts : List Text) : words ts ≠ [] := by
  match ts with
  | [] | [t] | [t, u] | t :: u :: v :: ts => exact List.cons_ne_nil _ _

theorem space_notMem_words (h : ∀ t ∈ ts, ' ' ∉ t) : ∀ w ∈ words ts, ' ' ∉ w := by
  match ts with
  | [] => decide
  | [t] => simpa [words] using h
  | [t, u] => simpa [words] using h
  | t :: u :: v :: ts =>
      have hlist : ∀ w ∈ commas (t :: u :: v :: ts), ' ' ∉ w := by
        intro w hw
        obtain ⟨x, hx, rfl | rfl⟩ := mem_commas hw
        · exact h w hx
        · simpa using h x hx
      simp only [words, List.forall_mem_cons]
      exact ⟨by decide, by decide, by decide, hlist⟩

theorem words_injective (h : words ts = words us) : ts = us := by
  have hl := congrArg List.length h
  match ts, us with
  | [], [] => rfl
  | [t], [u] => simpa [words] using h
  | [t, t'], [u, u'] => simpa [words] using h
  | t :: t' :: t'' :: ts, u :: u' :: u'' :: us => exact commas_injective (by simpa [words] using h)
  | [], [u] | [t], [] => simp [words] at h
  | [], [u, u'] | [t], [u, u'] | [t, t'], [] | [t, t'], [u] => simp [words] at hl
  | [], u :: u' :: u'' :: us | [t], u :: u' :: u'' :: us | [t, t'], u :: u' :: u'' :: us =>
      simp [words, length_commas] at hl
  | t :: t' :: t'' :: ts, [] | t :: t' :: t'' :: ts, [u] | t :: t' :: t'' :: ts, [u, u'] =>
      simp [words, length_commas] at hl

/-- The message can be taken apart at its spaces, so nothing is lost in it. -/
theorem messageOf_injective (hd : ∀ d ∈ ds, ' ' ∉ d.toList) (he : ∀ e ∈ es, ' ' ∉ e.toList)
    (h : messageOf ds = messageOf es) : ds = es := by
  have hsplit {ds : List String} (hd : ∀ d ∈ ds, ' ' ∉ d.toList) :
      (messageOf ds).toList.splitOn ' ' = words (ds.map String.toList) := by
    rw [toList_messageOf]
    exact List.splitOn_intercalate ' ' (space_notMem_words (List.forall_mem_map.mpr hd))
      (words_ne_nil _)
  have hw := (hsplit hd).symm.trans ((congrArg (·.toList.splitOn ' ') h).trans (hsplit he))
  exact List.map_injective_iff.mpr (fun _ _ => String.toList_inj.mp) (words_injective hw)

end Lookahead

variable {c c' : Cursor} {k : Nat} {l m : Lookahead} {f g : Family} {a : Action} {as : List Action}
  {t : Target} {targets others : List Target}

theorem Target.display_eq (t : Target) : (∃ e, t.display = .error e ∧ names [t] = []) ∨
    ∃ d, t.display = .ok d ∧ names [t] = [d] := by
  cases hd : t.display with
  | error e => exact .inl ⟨e, rfl, by simp [names, hd, Except.toOption]⟩
  | ok d => exact .inr ⟨d, rfl, by simp [names, hd, Except.toOption]⟩

theorem Target.names_append (ts us : List Target) : names (ts ++ us) = names ts ++ names us :=
  List.filterMap_append

theorem Target.space_notMem_display {d : String} (h : t.display = .ok d) : ' ' ∉ d.toList := by
  cases t with
  | kind k =>
      obtain rfl := Except.ok.inj h
      cases k <;> decide
  | type p =>
      cases hp : p.requireParsing "display" with
      | error e => simp [display, Punctuation.display, hp, bind, Except.bind] at h
      | ok u =>
          obtain rfl : "`" ++ String.ofList p.symbol ++ "`" = d := by
            simpa [display, Punctuation.display, hp, bind, Except.bind, pure, Except.pure] using h
          have hs : ' ' ∉ p.symbol := by
            intro hm
            have hp := p.symbol_spec.2.1 ' ' hm
            contradiction
          simpa using hs

theorem Target.space_notMem_names (ts : List Target) : ∀ d ∈ names ts, ' ' ∉ d.toList := by
  intro d hd
  obtain ⟨t, -, ht⟩ := List.mem_filterMap.mp hd
  cases h : t.display with
  | error e => simp [h, Except.toOption] at ht
  | ok e =>
      obtain rfl : e = d := by simpa [h, Except.toOption] using ht
      exact space_notMem_display h

namespace Lookahead

/-- The cursor of a lookahead stays, and the name is remembered if there is one. -/
theorem peek_snd (l : Lookahead) (t : Target) :
    (l.peek t).2 = ⟨l.cursor, l.tried ++ Target.names [t]⟩ := by
  rcases t.display_eq with ⟨e, hd, hn⟩ | ⟨d, hd, hn⟩ <;> simp [peek, hd, hn]

theorem peek_fst {d : String} (hd : t.display = .ok d) : (l.peek t).1 = t.peek l.cursor := by
  simp [peek, hd]

end Lookahead

namespace Family

theorem lookaheads_moved {α : Type} (f : Family) (n : Nat) (answer : α → Answer)
    (r : Except Error (α × Stream)) : (f.moved n answer r).2.lookaheads = f.lookaheads := by
  cases r <;> rfl

/-- An action adds to a lookahead what it asks it for, and to no other one. -/
theorem lookahead_of_act {r : Except Error Answer} (h : f.act a = some (r, g))
    (hl : f.lookaheads[k]? = some l) :
    g.lookaheads[k]? = some ⟨l.cursor, l.tried ++ Target.names (a.asked k)⟩ := by
  have hsame : l = ⟨l.cursor, l.tried ++ Target.names []⟩ := by simp [Target.names]
  have hmoved {α : Type} {n : Nat} {answer : α → Answer} {q : Except Error (α × Stream)}
      (hg : f.moved n answer q = (r, g)) : g.lookaheads[k]? = some l := by
    rw [← hl, ← f.lookaheads_moved n answer q, hg]
  cases a with
  | peek | peekToken | isEmpty | error | lookError | fork =>
      obtain ⟨s, -, hg⟩ := Option.map_eq_some_iff.mp h
      obtain ⟨-, rfl⟩ := Prod.mk.inj hg
      exact hsame ▸ hl
  | expect | parse =>
      obtain ⟨s, -, hg⟩ := Option.map_eq_some_iff.mp h
      exact hsame ▸ hmoved hg
  | advanceTo =>
      obtain ⟨s, -, h⟩ := Option.bind_eq_some_iff.mp h
      obtain ⟨s', -, hg⟩ := Option.map_eq_some_iff.mp h
      exact hsame ▸ hmoved hg
  | lookahead n =>
      obtain ⟨s, -, hg⟩ := Option.map_eq_some_iff.mp h
      obtain ⟨-, rfl⟩ := Prod.mk.inj hg
      exact hsame ▸ (List.getElem?_append_left (List.getElem?_eq_some_iff.mp hl).1).trans hl
  | look n t =>
      obtain ⟨l', hl', hg⟩ := Option.map_eq_some_iff.mp h
      obtain ⟨-, rfl⟩ := Prod.mk.inj hg
      by_cases hn : n = k
      · subst n
        obtain rfl := Option.some.inj (hl'.symm.trans hl)
        rw [List.getElem?_set_self (List.getElem?_eq_some_iff.mp hl).1, Lookahead.peek_snd,
          Action.asked, if_pos rfl]
      · rw [List.getElem?_set_ne hn, Action.asked, if_neg hn, ← hsame, hl]

theorem lookahead_of_run (h : f.run as = some g) (hl : f.lookaheads[k]? = some l) :
    g.lookaheads[k]? =
      some ⟨l.cursor, l.tried ++ Target.names (as.flatMap (Action.asked k))⟩ := by
  induction as generalizing f l with
  | nil =>
      obtain rfl := Option.some.inj h
      simpa [Target.names] using hl
  | cons a as ih =>
      obtain ⟨⟨r, f'⟩, ha, h⟩ := Option.bind_eq_some_iff.mp h
      rw [ih h (lookahead_of_act ha hl), List.flatMap_cons, Target.names_append,
        List.append_assoc]

end Family

namespace Lookahead

/-- Whatever else was done, a lookahead is where it was made and knows the names of what it was
asked for. -/
theorem Made.eq (h : l.Made c targets) : l = ⟨c, Target.names targets⟩ := by
  obtain ⟨f, g, n, s, as, hs, rfl, hrun, hl, rfl⟩ := h
  obtain ⟨⟨r, f'⟩, ha, hrun⟩ := Option.bind_eq_some_iff.mp hrun
  obtain ⟨s', hs', hf⟩ := Option.map_eq_some_iff.mp ha
  obtain rfl := Option.some.inj (hs'.symm.trans hs)
  obtain ⟨-, rfl⟩ := Prod.mk.inj hf
  have hfirst : (f.lookaheads ++ [s'.lookahead])[f.lookaheads.length]? = some s'.lookahead :=
    List.getElem?_concat_length
  exact Option.some.inj (hl.symm.trans (Family.lookahead_of_run hrun hfirst))

theorem message_of_error {text : String} {got : Token} (h : l.error = .ok (.parse text got)) :
    l.message = text := by
  cases hc : l.cursor.token with
  | error e => simp [error, hc, Except.map] at h
  | ok t =>
      obtain ⟨hm, -⟩ : l.message = text ∧ t = got := by simpa [error, hc, Except.map] using h
      exact hm

/-- A lookahead answers as its cursor does and its error names all that it was asked for. From the
message of the error the names can be told, with their order and their number, whatever was found
and whatever commas are in them. -/
theorem tried_of_message (hl : l.Made c targets) (hm : m.Made c' others) :
    (∀ t d, t.display = .ok d → (l.peek t).1 = t.peek c) ∧
    (∀ t e, t.display = .error e → l.peek t = (.error e, l)) ∧
    (∀ got, c.token = .ok got →
      l.error = .ok (.parse (messageOf (Target.names targets)) got)) ∧
    ∀ message got got', l.error = .ok (.parse message got) → m.error = .ok (.parse message got') →
      Target.names targets = Target.names others := by
  obtain rfl := hl.eq
  obtain rfl := hm.eq
  refine ⟨fun t d hd => peek_fst hd, ?_, ?_, ?_⟩
  · intro t e he
    simp [peek, he]
  · intro got hgot
    simp [error, message, hgot, Except.map]
  · intro message got got' h h'
    exact messageOf_injective (Target.space_notMem_names targets) (Target.space_notMem_names others)
      ((message_of_error h).trans (message_of_error h').symm)

theorem tried_of_message_of_comma :
    ∃ (c c' : Cursor) (l m : Lookahead) (p q : Punctuation) (message : String) (got got' : Token),
      p ≠ q ∧ p.symbol = [','] ∧ q.symbol = [','] ∧ got ≠ got' ∧
        l.Made c [.kind .eof, .type p, .kind .punct] ∧
        m.Made c' [.kind .eof, .type q, .kind .punct] ∧
        message = "expected one of: eof, `,`, punct" ∧ l.error = .ok (.parse message got) ∧
        m.error = .ok (.parse message got') ∧ (l.peek (.type p)).1 = (Target.type p).peek c ∧
        Target.names [.kind .eof, .type p, .kind .punct] =
          Target.names [.kind .eof, .type q, .kind .punct] := by
  let b : Buffer := ⟨0, [.punct '<' .toolchain true, .endOfInput .toolchain], _, rfl, rfl⟩
  let p : Punctuation := ⟨0, "Comma", [','], [⟨[',']⟩], ⟨true, true, true, true⟩, "", by cbv⟩
  let q : Punctuation := { p with serial := 1, name := "Separator" }
  let l : Lookahead := ⟨⟨b, 0⟩, ["eof", "`,`", "punct"]⟩
  let m : Lookahead := ⟨⟨b, 1⟩, l.tried⟩
  -- The first one is asked while its stream moves on and another one is made on it.
  have hl : l.Made ⟨b, 0⟩ [.kind .eof, .type p, .kind .punct] :=
    ⟨.start ⟨⟨b, 0⟩⟩, ⟨[⟨⟨b, 1⟩⟩], [l, ⟨⟨b, 1⟩, ["eof"]⟩]⟩, 0, ⟨⟨b, 0⟩⟩,
      [.look 0 (.kind .eof), .expect 0 .punct, .look 0 (.type p), .lookahead 0,
        .look 1 (.kind .eof), .look 0 (.kind .punct)], rfl, rfl, rfl, rfl, rfl⟩
  have hm : m.Made ⟨b, 1⟩ [.kind .eof, .type q, .kind .punct] :=
    ⟨.start ⟨⟨b, 1⟩⟩, ⟨[⟨⟨b, 1⟩⟩], [m]⟩, 0, ⟨⟨b, 1⟩⟩,
      [.look 0 (.kind .eof), .look 0 (.type q), .look 0 (.kind .punct)], rfl, rfl, rfl, rfl, rfl⟩
  obtain ⟨hpeek, -, herror, hnames⟩ := tried_of_message hl hm
  have hle := herror (.punct '<' .toolchain true) rfl
  have hme : m.error = .ok (.parse l.message (.endOfInput .toolchain)) := rfl
  exact ⟨⟨b, 0⟩, ⟨b, 1⟩, l, m, p, q, l.message, .punct '<' .toolchain true, .endOfInput .toolchain,
    by decide, rfl, rfl, by decide, hl, hm, rfl, hle, hme, hpeek _ _ rfl, hnames _ _ _ hle hme⟩

end Lookahead

end Sigil
