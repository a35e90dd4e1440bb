import Sigil.Error
import Sigil.Proofs.Decomposition

namespace Sigil

namespace Atom

variable {a b : Atom} {c : Char} {cs : Text}

theorem table_length : ∀ a ∈ table, a.length ≤ 3 := by decide

theorem ext_of_isPrefix (ha : a.text <+: cs) (hb : b.text <+: cs) (hl : a.length = b.length) :
    a = b := by
  have ht : a.text = b.text :=
    (List.prefix_of_prefix_length_le ha hb (Nat.le_of_eq hl)).eq_of_length hl
  cases a
  cases b
  exact congrArg Atom.mk ht

theorem exists_find?_take (hb : b ∈ table) (hp : b.text <+: cs) :
    ∃ a, find? (cs.take b.length) = some a := by
  apply Option.isSome_iff_exists.mp
  apply List.find?_isSome.mpr
  exact ⟨b, hb, decide_eq_true (List.prefix_iff_eq_take.mp hp)⟩

/-- No atom that a text begins with is longer than the one that is found. -/
theorem length_le_of_longest? (h : longest? cs = some a) (hb : b ∈ table) (hp : b.text <+: cs) :
    b.length ≤ a.length := by
  -- An atom found among the first `n` characters is at least as long as one that fits into them.
  have hfound {n : Nat} (hn : b.length ≤ n) (hf : find? (cs.take n) = some a) :
      b.length ≤ a.length := by
    have hl : a.length = min n cs.length := by
      rw [length, (find?_some hf).2, List.length_take]
    rw [hl]
    exact Nat.le_min.mpr ⟨hn, hp.length_le⟩
  have hnone {n : Nat} (hf : find? (cs.take n) = none) : b.length ≠ n := by
    rintro rfl
    obtain ⟨d, hd⟩ := exists_find?_take hb hp
    rw [hf] at hd
    contradiction
  have hb3 := table_length b hb
  simp only [longest?, Option.orElse_eq_orElse, Option.orElse_eq_or, Option.or_eq_some_iff] at h
  rcases h with h | ⟨h3, h | ⟨h2, h⟩⟩
  · exact hfound hb3 h
  · have := hnone h3
    exact hfound (by omega) h
  · have := hnone h3
    have := hnone h2
    exact hfound (by omega) h

theorem longest?_eq_some_iff :
    longest? cs = some a ↔
      a ∈ table ∧ a.text <+: cs ∧ ∀ b ∈ table, b.text <+: cs → b.length ≤ a.length := by
  constructor
  · intro h
    obtain ⟨ha, hp⟩ := longest?_some h
    exact ⟨ha, hp, fun b hb hb' => length_le_of_longest? h hb hb'⟩
  · rintro ⟨ha, hp, hl⟩
    obtain ⟨c, more, hc⟩ := List.exists_cons_of_ne_nil (table_texts a ha).1
    have hpunct : isPunctuation c = true := isPunctuation_of_mem ha (hc ▸ List.mem_cons_self)
    obtain ⟨rest, rfl⟩ := hp
    obtain ⟨b, hb⟩ := exists_longest? hpunct (more ++ rest)
    rw [← List.cons_append, ← hc] at hb
    obtain ⟨hm, hp'⟩ := longest?_some hb
    have hle : a.length ≤ b.length := length_le_of_longest? hb ha (List.prefix_append _ _)
    rw [hb, ext_of_isPrefix hp' (List.prefix_append _ _) (Nat.le_antisymm (hl b hm hp') hle)]

end Atom

namespace Symbol

/-- A text that is cut into atoms by maximal munch: the atoms spell it, and where one of them begins
there begins no longer one. -/
structure Munched (text : Text) (as : List Atom) : Prop where
  spells : as.flatMap Atom.text = text
  known : ∀ a ∈ as, a ∈ Atom.table
  longest : ∀ before a after, as = before ++ a :: after →
    ∀ b ∈ Atom.table, b.text <+: (a :: after).flatMap Atom.text → b.length ≤ a.length

variable {n : Nat} {a : Atom} {as : List Atom} {text cs : Text} {e : DecompositionError}

namespace Munched

theorem nil : Munched [] [] where
  spells := rfl
  known := by simp
  longest := by simp

theorem cons (ha : a ∈ Atom.table)
    (hl : ∀ b ∈ Atom.table, b.text <+: a.text ++ text → b.length ≤ a.length)
    (h : Munched text as) : Munched (a.text ++ text) (a :: as) where
  spells := by rw [List.flatMap_cons, h.spells]
  known := List.forall_mem_cons.mpr ⟨ha, h.known⟩
  longest := by
    intro before a' after hs
    cases before with
    | nil =>
        obtain ⟨rfl, rfl⟩ := List.cons.inj hs
        rw [List.flatMap_cons, h.spells]
        exact hl
    | cons d before => exact h.longest before a' after (List.cons.inj hs).2

theorem tail (h : Munched text (a :: as)) : Munched (as.flatMap Atom.text) as where
  spells := rfl
  known := (List.forall_mem_cons.mp h.known).2
  longest := by
    rintro before a' after rfl
    exact h.longest (a :: before) a' after rfl

theorem longest?_eq (h : Munched text (a :: as)) : Atom.longest? text = some a := by
  apply Atom.longest?_eq_some_iff.mpr
  refine ⟨h.known a List.mem_cons_self, ?_, ?_⟩
  · rw [← h.spells, List.flatMap_cons]
    exact List.prefix_append _ _
  · intro b hb hp
    exact h.longest [] a as rfl b hb (by rwa [h.spells])

theorem eq_lenient (h : Munched text as) : as = lenient text := by
  induction as generalizing text with
  | nil =>
      rw [← h.spells]
      simp [lenient]
  | cons a as ih =>
      have hl := h.longest?_eq
      cases text with
      | nil =>
          have ht := (Atom.longest?_some hl).2
          exact absurd (List.prefix_nil.mp ht) (Atom.table_texts a (h.known a List.mem_cons_self)).1
      | cons c cs =>
          have hd : as.flatMap Atom.text = cs.drop (a.length - 1) := by
            have hs := h.spells
            rw [List.flatMap_cons, Atom.longest?_split hl] at hs
            exact List.append_cancel_left hs
          rw [lenient_of_longest? hl, ← hd, ← ih h.tail]

end Munched

theorem munched_lenient (h : ∀ c ∈ cs, isPunctuation c = true) : Munched cs (lenient cs) := by
  fun_induction lenient cs with
  | case1 => exact .nil
  | case2 c cs hn ih =>
      obtain ⟨a, ha⟩ := Atom.exists_longest? (h c List.mem_cons_self) cs
      simp [hn] at ha
  | case3 c cs a ha ih =>
      have hrest : Munched (cs.drop (a.length - 1)) (lenient (cs.drop (a.length - 1))) :=
        ih fun x hx => h x (List.mem_cons_of_mem _ (List.mem_of_mem_drop hx))
      have hs := Atom.longest?_split ha
      rw [hs]
      refine hrest.cons (Atom.longest?_some ha).1 ?_
      rw [← hs]
      exact fun b hb hp => Atom.length_le_of_longest? ha hb hp

/-- The scan stops at the first character that begins no atom, whatever atoms it took before. -/
theorem strictFrom_error (h : strictFrom n cs = .error e) :
    ∃ before c after, cs = before ++ c :: after ∧ (∀ x ∈ before, isPunctuation x = true) ∧
      isPunctuation c = false ∧ e = .unexpected (n + before.length) := by
  fun_induction strictFrom n cs with
  | case1 n => simp at h
  | case2 n c cs hn =>
      refine ⟨[], c, cs, rfl, by simp, ?_, (Except.error.inj h).symm⟩
      rw [Bool.eq_false_iff]
      intro hc
      obtain ⟨a, ha⟩ := Atom.exists_longest? hc cs
      simp [hn] at ha
  | case3 n c cs a ha ih =>
      cases hs : strictFrom (n + a.length) (cs.drop (a.length - 1)) with
      | ok bs =>
          rw [hs] at h
          cases h
      | error e' =>
          rw [hs] at h
          obtain rfl : e' = e := Except.error.inj h
          obtain ⟨before, x, after, hd, hb, hx, rfl⟩ := ih hs
          refine ⟨a.text ++ before, x, after, ?_, ?_, hx, ?_⟩
          · rw [Atom.longest?_split ha, hd, List.append_assoc]
          · intro y hy
            rcases List.mem_append.mp hy with hy | hy
            · exact Atom.isPunctuation_of_mem (Atom.longest?_some ha).1 hy
            · exact hb y hy
          · rw [List.length_append, ← Nat.add_assoc]
            rfl

theorem strict_error (hn : text ≠ []) (h : strict text = .error e) :
    ∃ before c after, text = before ++ c :: after ∧ (∀ x ∈ before, isPunctuation x = true) ∧
      isPunctuation c = false ∧ e = .unexpected before.length := by
  obtain ⟨c, cs, rfl⟩ := List.exists_cons_of_ne_nil hn
  have h' : strictFrom 0 (c :: cs) = .error e := h
  simpa using strictFrom_error h'

/-- The symbols that have atoms are the nonempty strings of punctuation characters. Their atoms are
the only ones that cut them by maximal munch, and passing over stray characters gives the same. Any
other nonempty symbol is refused at its first character that is no punctuation. -/
theorem strict_ok_iff_punctuation (symbol : Text) :
    ((∃ as, strict symbol = .ok as) ↔
      symbol ≠ [] ∧ ∀ c ∈ symbol, Sigil.isPunctuation c = true) ∧
    (∀ as, strict symbol = .ok as →
      Munched symbol as ∧ (∀ bs, Munched symbol bs → bs = as) ∧ lenient symbol = as) ∧
    ∀ e, symbol ≠ [] → strict symbol = .error e →
      ∃ (position : Nat) (c : Char),
        Error.ofDecomposition symbol e = .unexpectedPunctuation symbol position ∧
        symbol[position]? = some c ∧ Sigil.isPunctuation c = false ∧
        ∀ x ∈ symbol.take position, Sigil.isPunctuation x = true := by
  refine ⟨?_, ?_, ?_⟩
  · constructor
    · rintro ⟨as, h⟩
      obtain ⟨hn, hc, -⟩ := strict_ok_iff.mp h
      exact ⟨hn, hc⟩
    · rintro ⟨hn, hc⟩
      exact ⟨lenient symbol, strict_ok_iff.mpr ⟨hn, hc, rfl⟩⟩
  · intro as h
    obtain ⟨-, hc, rfl⟩ := strict_ok_iff.mp h
    exact ⟨munched_lenient hc, fun bs hb => hb.eq_lenient, rfl⟩
  · intro e hn h
    obtain ⟨before, c, after, rfl, hb, hc, rfl⟩ := strict_error hn h
    refine ⟨before.length, c, rfl, by simp, hc, ?_⟩
    rwa [List.take_left]

theorem strict_of_shift_and_stray :
    Munched ['<', '<', '=', '>'] [⟨['<', '<', '=']⟩, ⟨['>']⟩] ∧
    ∃ e, strict ['<', '<', '=', '$', '='] = .error e ∧
      ∃ c, Error.ofDecomposition ['<', '<', '=', '$', '='] e =
        .unexpectedPunctuation ['<', '<', '=', '$', '='] 3 ∧
        ['<', '<', '=', '$', '='][3]? = some c ∧ Sigil.isPunctuation c = false := by
  have hs : strict ['<', '<', '=', '>'] = .ok [⟨['<', '<', '=']⟩, ⟨['>']⟩] := by cbv
  have he : strict ['<', '<', '=', '$', '='] = .error (.unexpected 3) := by cbv
  refine ⟨((strict_ok_iff_punctuation _).2.1 _ hs).1, _, he, ?_⟩
  obtain ⟨position, c, hp, hc, hn, -⟩ := (strict_ok_iff_punctuation _).2.2 _ (by decide) he
  obtain rfl : 3 = position := Int.ofNat.inj (by simpa [Error.ofDecomposition] using hp)
  exact ⟨c, rfl, hc, hn⟩

end Symbol

end Sigil
