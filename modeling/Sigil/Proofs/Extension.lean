import Sigil.Proofs.MaximalMunch
import Sigil.Proofs.Progress

namespace Sigil

namespace Atom

variable {a : Atom}

/-- An atom that is cut off is still an atom. -/
theorem table_cuts : ∀ a ∈ table, ∀ cut ∈ a.text.inits, cut ≠ [] → (⟨cut⟩ : Atom) ∈ table := by
  decide

/-- Where a text goes on, the atom that it begins with is the same, unless the text cut it off. What
was left of it is then an atom by itself. -/
theorem longest?_of_isPrefix {cs cs' : Text} (h : cs <+: cs') (ha : longest? cs = some a) :
    ∃ b, longest? cs' = some b ∧ (a = b ∨ a.text = cs ∧ a.text <+: b.text) := by
  obtain ⟨hm, hp, hlongest⟩ := longest?_eq_some_iff.mp ha
  obtain ⟨c, rest, rfl⟩ : ∃ c rest, cs = c :: rest := by
    apply List.exists_cons_of_ne_nil
    rintro rfl
    exact (table_texts a hm).1 (List.prefix_nil.mp hp)
  obtain ⟨rest', rfl, -⟩ := List.cons_prefix_iff.mp h
  obtain ⟨b, hb⟩ := exists_longest? (isPunctuation_of_longest? ha) rest'
  obtain ⟨hbm, hbp⟩ := longest?_some hb
  refine ⟨b, hb, ?_⟩
  rcases List.prefix_or_prefix_of_prefix hbp h with hfit | hcut
  · have hle : a.length ≤ b.length := length_le_of_longest? hb hm (hp.trans h)
    exact .inl (ext_of_isPrefix hp hfit (Nat.le_antisymm hle (hlongest b hbm hfit)))
  · have hcm := table_cuts b hbm (c :: rest) ((List.mem_inits _ _).mpr hcut) (List.cons_ne_nil _ _)
    have hall : a.text = c :: rest :=
      hp.eq_of_length_le (hlongest ⟨c :: rest⟩ hcm List.prefix_rfl)
    exact .inr ⟨hall, hall ▸ hcut⟩

end Atom

namespace Symbol

/-- What becomes of the atoms of a text when the text goes on: they stay as they are, only that the
last of them may get longer. -/
inductive Extends : List Atom → List Atom → Prop
  | nil (bs : List Atom) : Extends [] bs
  | last {a b : Atom} (h : a.text <+: b.text) (bs : List Atom) : Extends [a] (b :: bs)
  | cons (a : Atom) {as bs : List Atom} (h : Extends as bs) : Extends (a :: as) (a :: bs)

variable {a : Atom} {as bs : List Atom} {p s : Text} {n : Nat}

namespace Extends

theorem length_le (h : Extends as bs) : as.length ≤ bs.length := by
  induction h with
  | nil bs => exact Nat.zero_le _
  | last h bs => exact Nat.succ_le_succ (Nat.zero_le _)
  | cons a h ih => exact Nat.succ_le_succ ih

theorem dropLast_isPrefix (h : Extends as bs) : as.dropLast <+: bs := by
  induction h with
  | nil bs => exact List.nil_prefix
  | last h bs => exact List.nil_prefix
  | @cons a as bs h ih =>
      by_cases hn : as = []
      · subst hn
        exact List.nil_prefix
      · rw [List.dropLast_cons_of_ne_nil hn]
        exact List.cons_prefix_cons.mpr ⟨rfl, ih⟩

theorem getLast? (h : Extends as bs) (ha : as.getLast? = some a) :
    ∃ b, bs[as.length - 1]? = some b ∧ a.text <+: b.text := by
  induction h with
  | nil bs => simp at ha
  | last h bs =>
      obtain rfl := Option.some.inj ha
      exact ⟨_, rfl, h⟩
  | @cons d as bs h ih =>
      by_cases hn : as = []
      · subst hn
        obtain rfl := Option.some.inj ha
        exact ⟨_, rfl, List.prefix_rfl⟩
      · obtain ⟨m, hm⟩ := Nat.exists_eq_add_one_of_ne_zero (mt List.eq_nil_of_length_eq_zero hn)
        rw [List.getLast?_cons_of_ne_nil hn] at ha
        obtain ⟨b, hb, hp⟩ := ih ha
        refine ⟨b, ?_, hp⟩
        rw [hm, Nat.add_sub_cancel] at hb
        rw [List.length_cons, hm, Nat.add_sub_cancel, List.getElem?_cons_succ, hb]

theorem offsets (h : Extends as bs) (start : Nat) :
    Symbol.offsets start as = (Symbol.offsets start bs).take as.length := by
  induction h generalizing start with
  | nil bs => rfl
  | last h bs => rfl
  | cons a h ih => rw [Symbol.offsets, ih]; rfl

end Extends

/-- The scan of a text and that of a longer one take the same atoms until the shorter text cuts one
off. What is left of it is then an atom, and the last one. -/
theorem extends_of_isPrefix (h : p <+: s) : Extends (lenient p) (lenient s) := by
  fun_induction lenient p generalizing s with
  | case1 => exact .nil _
  | case2 c cs hn ih =>
      obtain ⟨rest, rfl, hr⟩ := List.cons_prefix_iff.mp h
      have hn' : Atom.longest? (c :: rest) = none :=
        Atom.longest?_eq_none_iff.mpr (Atom.longest?_eq_none_iff.mp hn)
      rw [lenient, hn']
      exact ih hr
  | case3 c cs a ha ih =>
      obtain ⟨b, hb, hcut⟩ := Atom.longest?_of_isPrefix h ha
      obtain ⟨rest, rfl, hr⟩ := List.cons_prefix_iff.mp h
      rw [lenient_of_longest? hb]
      rcases hcut with rfl | ⟨hall, hcut⟩
      · exact .cons a (ih (hr.drop _))
      · have hd : cs.drop (a.length - 1) = [] := by simp [Atom.length, hall]
        rw [hd, lenient]
        exact .last hcut _

end Symbol

variable {c d : Cursor} {p s : Text} {ts : List Token}

namespace Cursor

theorem peekPunct_eq_true_iff {text : Text} :
    c.peekPunct text = .ok true ↔ ∃ ts d, c.matchPunct text = .ok (some (ts, d)) := by
  rw [peekPunct]
  rcases c.matchPunct text with e | _ | ⟨ts, d⟩ <;> simp [Except.map]

theorem length_of_matchPunct (h : c.matchPunct s = .ok (some (ts, d))) : ts.length = s.length := by
  induction s generalizing c ts with
  | nil =>
      obtain ⟨rfl, -⟩ := Prod.mk.inj (Option.some.inj (Except.ok.inj h))
      rfl
  | cons ch rest ih =>
      obtain ⟨x, us, -, -, -, hm, rfl⟩ := matchPunct_cons_iff.mp h
      rw [List.length_cons, List.length_cons, ih hm]

/-- Where a text is matched, each text that it begins with is matched by the first tokens. -/
theorem matchPunct_of_isPrefix (h : c.matchPunct s = .ok (some (ts, d))) (hp : p <+: s) :
    c.matchPunct p =
      .ok (some (ts.take p.length, ⟨c.buffer, c.position + p.length⟩)) := by
  induction p generalizing c s ts with
  | nil => simp [matchPunct]
  | cons ch p ih =>
      obtain ⟨rest, rfl, hr⟩ := List.cons_prefix_iff.mp hp
      obtain ⟨x, us, hx, ht, hj, hm, rfl⟩ := matchPunct_cons_iff.mp h
      apply matchPunct_cons_iff.mpr
      refine ⟨x, us.take p.length, hx, ht, ?_, ?_, rfl⟩
      · -- A token in the middle is joint, one at the end need not be.
        refine hj.imp_left ?_
        rintro rfl
        exact List.prefix_nil.mp hr
      · rw [ih hm hr, List.length_cons, Nat.cast_add, Nat.cast_one, Int.add_assoc,
          Int.add_comm 1]

end Cursor

namespace Stream

theorem parsePunct_of_matchPunct {stream : Stream}
    (h : stream.cursor.matchPunct s = .ok (some (ts, d))) :
    stream.parsePunct s = .ok (atomLocations s ts, ⟨d⟩) := by
  rw [parsePunct, h, Cursor.matchPunct_some h]
  simp only [advanceTo_of_reaches (Cursor.reaches_add _ _)]
  rfl

theorem atomLocations_of_isPrefix (hs : ∀ c ∈ s, isPunctuation c = true) (hp : p <+: s)
    (hl : ts.length = s.length) : atomLocations p (ts.take p.length) =
      (atomLocations s ts).take (Symbol.lenient p).length := by
  have hp' : ∀ c ∈ p, isPunctuation c = true := fun c hc => hs c (hp.subset hc)
  have hl' : (ts.take p.length).length = p.length := by
    rw [List.length_take, hl]
    exact Nat.min_eq_left hp.length_le
  apply List.map_injective_iff.mpr (Option.some_injective Location)
  rw [List.map_take, map_some_atomLocations hs hl, map_some_atomLocations hp' hl', ← List.map_take,
    ← (Symbol.extends_of_isPrefix hp).offsets]
  apply List.map_congr_left
  intro o ho
  rw [List.getElem?_take_of_lt (Symbol.lt_of_mem_offsets_lenient hp' ho)]

end Stream

/-- Reading on does not undo what was read. The atoms of a text that goes on are kept but for the
last of them, which may get longer. So wherever a symbol is found among tokens, all texts that it
begins with are found as well, and each is parsed with the first locations of the symbol, one for
each atom of its own. -/
theorem atoms_of_isPrefix (h : p <+: s) :
    ((Symbol.lenient p).length ≤ (Symbol.lenient s).length ∧
      (Symbol.lenient p).dropLast <+: Symbol.lenient s ∧
      ∀ a, (Symbol.lenient p).getLast? = some a →
        ∃ b, (Symbol.lenient s)[(Symbol.lenient p).length - 1]? = some b ∧ a.text <+: b.text) ∧
    ∀ (stream : Stream) (as : List Atom), Symbol.strict s = .ok as →
      stream.cursor.peekPunct s = .ok true → p ≠ [] →
      stream.cursor.peekPunct p = .ok true ∧
        ∃ ls t u bs, stream.parsePunct s = .ok (ls, t) ∧ Symbol.strict p = .ok bs ∧
          stream.parsePunct p = .ok (ls.take bs.length, u) := by
  have he := Symbol.extends_of_isPrefix h
  refine ⟨⟨he.length_le, he.dropLast_isPrefix, fun a ha => he.getLast? ha⟩, ?_⟩
  intro stream as hs hpeek hn
  obtain ⟨-, hc, -⟩ := Symbol.strict_ok_iff.mp hs
  obtain ⟨ts, d, hm⟩ := Cursor.peekPunct_eq_true_iff.mp hpeek
  have hm' := Cursor.matchPunct_of_isPrefix hm h
  have hp := Stream.parsePunct_of_matchPunct hm'
  rw [Stream.atomLocations_of_isPrefix hc h (Cursor.length_of_matchPunct hm)] at hp
  refine ⟨Cursor.peekPunct_eq_true_iff.mpr ⟨_, _, hm'⟩, _, _, _, Symbol.lenient p,
    Stream.parsePunct_of_matchPunct hm, ?_, hp⟩
  exact Symbol.strict_ok_iff.mpr ⟨hn, fun c hm => hc c (h.subset hm), rfl⟩

theorem atoms_of_isPrefix_of_range :
    ∃ (stream : Stream) (as : List Atom), ['<', '=', '.', '.'] <+: ['<', '=', '.', '.', '='] ∧
      Symbol.strict ['<', '=', '.', '.', '='] = .ok as ∧
      stream.cursor.peekPunct ['<', '=', '.', '.', '='] = .ok true ∧ ['<', '=', '.', '.'] ≠ [] ∧
      stream.cursor.peekPunct ['<', '=', '.', '.'] = .ok true ∧
      ∃ ls t u, stream.parsePunct ['<', '=', '.', '.', '='] = .ok (ls, t) ∧
        stream.parsePunct ['<', '=', '.', '.'] = .ok (ls.take 2, u) := by
  let place (column : Int) : Location := ⟨0, column, .string none⟩
  let b : Buffer := ⟨0, [.punct '<' (place 4) false, .punct '=' (place 5) false,
    .punct '.' (place 6) false, .punct '.' (place 7) false, .punct '=' (place 8) true,
    .endOfInput (place 9)], _, rfl, rfl⟩
  have hp : ['<', '=', '.', '.'] <+: ['<', '=', '.', '.', '='] := ⟨['='], rfl⟩
  have hs : Symbol.strict ['<', '=', '.', '.', '='] = .ok [⟨['<', '=']⟩, ⟨['.', '.', '=']⟩] := by
    cbv
  have hs' : Symbol.strict ['<', '=', '.', '.'] = .ok [⟨['<', '=']⟩, ⟨['.', '.']⟩] := by cbv
  have hpeek : Cursor.peekPunct ⟨b, 0⟩ ['<', '=', '.', '.', '='] = .ok true := by
    with_unfolding_all rfl
  have hn : ['<', '=', '.', '.'] ≠ [] := List.cons_ne_nil _ _
  obtain ⟨hpeek', ls, t, u, bs, hall, hb, hfirst⟩ := (atoms_of_isPrefix hp).2 ⟨⟨b, 0⟩⟩ _ hs hpeek hn
  obtain rfl := Except.ok.inj (hs'.symm.trans hb)
  exact ⟨⟨⟨b, 0⟩⟩, _, hp, hs, hpeek, hn, hpeek', ls, t, u, hall, hfirst⟩

end Sigil
