import Sigil.Decomposition
import Sigil.Proofs.Characters

namespace Sigil

namespace Atom

variable {a : Atom} {c : Char} {cs : Text}

theorem table_texts : ∀ a ∈ table, a.text ≠ [] ∧ a.text ⊆ characters := by decide

theorem length_pos (ha : a ∈ table) : 0 < a.length :=
  List.length_pos_iff.mpr (table_texts a ha).1

theorem isPunctuation_of_mem (ha : a ∈ table) (hc : c ∈ a.text) : isPunctuation c = true :=
  (isPunctuation_iff c).mpr ((table_texts a ha).2 hc)

theorem find?_some {text : Text} (h : find? text = some a) : a ∈ table ∧ a.text = text :=
  ⟨List.mem_of_find?_eq_some h, by simpa using List.find?_some h⟩

theorem longest?_some (h : longest? cs = some a) : a ∈ table ∧ a.text <+: cs := by
  simp only [longest?, Option.orElse_eq_orElse, Option.orElse_eq_or, Option.or_eq_some_iff] at h
  have hp {n : Nat} (h : find? (cs.take n) = some a) : a ∈ table ∧ a.text <+: cs := by
    obtain ⟨ha, ht⟩ := find?_some h
    exact ⟨ha, ht ▸ List.take_prefix n cs⟩
  rcases h with h | ⟨-, h | ⟨-, h⟩⟩
  · exact hp h
  · exact hp h
  · exact hp h

theorem longest?_split (h : longest? (c :: cs) = some a) :
    c :: cs = a.text ++ cs.drop (a.length - 1) := by
  obtain ⟨ha, hp⟩ := longest?_some h
  have hd : (c :: cs).drop a.length = cs.drop (a.length - 1) := by
    obtain ⟨n, hn⟩ := Nat.exists_eq_add_one_of_ne_zero (Nat.ne_of_gt (length_pos ha))
    rw [hn, List.drop_succ_cons, Nat.add_sub_cancel]
  rw [← hd]
  exact (List.prefix_iff_eq_append.mp hp).symm

/-- Every punctuation character is an atom by itself, so some atom begins there. -/
theorem exists_longest? (h : isPunctuation c = true) (cs : Text) :
    ∃ a, longest? (c :: cs) = some a := by
  obtain ⟨-, -, -, -, hm⟩ := characters_apart c ((isPunctuation_iff c).mp h)
  have hf : (find? [c]).isSome = true := List.find?_isSome.mpr ⟨⟨[c]⟩, hm, by simp⟩
  apply Option.isSome_iff_exists.mp
  simp [longest?, hf]

theorem isPunctuation_of_longest? (h : longest? (c :: cs) = some a) : isPunctuation c = true := by
  obtain ⟨ha, hp⟩ := longest?_some h
  obtain ⟨d, more, hd⟩ := List.exists_cons_of_ne_nil (table_texts a ha).1
  rw [hd] at hp
  obtain ⟨rfl, -⟩ := List.cons_prefix_cons.mp hp
  exact isPunctuation_of_mem ha (hd ▸ List.mem_cons_self)

theorem longest?_eq_none_iff : longest? (c :: cs) = none ↔ isPunctuation c = false := by
  constructor
  · intro h
    by_contra hc
    obtain ⟨a, ha⟩ := exists_longest? (Bool.not_eq_false _ ▸ hc) cs
    simp [h] at ha
  · intro hc
    by_contra h
    obtain ⟨a, ha⟩ := Option.ne_none_iff_exists'.mp h
    simp [isPunctuation_of_longest? ha] at hc

end Atom

namespace Symbol

variable {n : Nat} {as : List Atom} {cs : Text}

theorem lenient_of_longest? {c : Char} {a : Atom} (h : Atom.longest? (c :: cs) = some a) :
    lenient (c :: cs) = a :: lenient (cs.drop (a.length - 1)) := by
  rw [lenient, h]

theorem strictFrom_ok_iff :
    strictFrom n cs = .ok as ↔ (∀ c ∈ cs, isPunctuation c = true) ∧ as = lenient cs := by
  fun_induction strictFrom n cs generalizing as with
  | case1 n =>
      rw [lenient]
      constructor
      · intro h
        exact ⟨by simp, (Except.ok.inj h).symm⟩
      · rintro ⟨-, rfl⟩
        rfl
  | case2 n c cs h =>
      constructor
      · intro he
        cases he
      · rintro ⟨hc, -⟩
        obtain ⟨a, ha⟩ := Atom.exists_longest? (hc c List.mem_cons_self) cs
        simp [h] at ha
  | case3 n c cs a h ih =>
      have htext : ∀ x ∈ a.text, isPunctuation x = true := fun x =>
        Atom.isPunctuation_of_mem (Atom.longest?_some h).1
      rw [lenient_of_longest? h, Atom.longest?_split h, List.forall_mem_append]
      constructor
      · intro hm
        cases hs : strictFrom (n + a.length) (cs.drop (a.length - 1)) with
        | error e =>
            rw [hs] at hm
            cases hm
        | ok bs =>
            rw [hs] at hm
            obtain ⟨hr, rfl⟩ := ih.mp hs
            exact ⟨⟨htext, hr⟩, (Except.ok.inj hm).symm⟩
      · rintro ⟨⟨-, hr⟩, rfl⟩
        rw [ih.mpr ⟨hr, rfl⟩]
        rfl

theorem strict_ok_iff :
    strict cs = .ok as ↔ cs ≠ [] ∧ (∀ c ∈ cs, isPunctuation c = true) ∧ as = lenient cs := by
  cases cs with
  | nil => simp [strict]
  | cons c cs => simp [strict, strictFrom_ok_iff]

theorem mem_table_of_mem_lenient {a : Atom} (h : a ∈ lenient cs) : a ∈ Atom.table := by
  fun_induction lenient cs with
  | case1 => simp at h
  | case2 c cs _ ih => exact ih h
  | case3 c cs b hb ih =>
      rcases List.mem_cons.mp h with rfl | h
      · exact (Atom.longest?_some hb).1
      · exact ih h

/-- The atoms cover the punctuation characters of a text, each of them once and in order. -/
theorem flatMap_text_lenient_eq_filter (cs : Text) :
    (lenient cs).flatMap Atom.text = cs.filter isPunctuation := by
  fun_induction lenient cs with
  | case1 => rfl
  | case2 c cs hn ih =>
      rw [ih, List.filter_cons_of_neg (by simp [Atom.longest?_eq_none_iff.mp hn])]
  | case3 c cs a ha ih =>
      have htext : a.text.filter isPunctuation = a.text :=
        List.filter_eq_self.mpr fun x => Atom.isPunctuation_of_mem (Atom.longest?_some ha).1
      rw [List.flatMap_cons, ih, Atom.longest?_split ha, List.filter_append, htext]

theorem flatMap_text_lenient (h : ∀ c ∈ cs, isPunctuation c = true) :
    (lenient cs).flatMap Atom.text = cs := by
  rw [flatMap_text_lenient_eq_filter, List.filter_eq_self.mpr h]

theorem length_offsets (start : Nat) (as : List Atom) : (offsets start as).length = as.length := by
  induction as generalizing start with
  | nil => rfl
  | cons a as ih => simp [offsets, ih]

theorem getElem?_offsets (start : Nat) (as : List Atom) {k : Nat} (hk : k < as.length) :
    (offsets start as)[k]? = some (start + ((as.take k).map Atom.length).sum) := by
  induction as generalizing start k with
  | nil => simp at hk
  | cons a as ih =>
      cases k with
      | zero => rfl
      | succ k =>
          have hk' : k < as.length := Nat.lt_of_succ_lt_succ hk
          simp [offsets, ih _ hk', Nat.add_assoc]

theorem lt_of_mem_offsets {start o : Nat} (ha : ∀ a ∈ as, a ∈ Atom.table)
    (ho : o ∈ offsets start as) :
    o < start + (as.flatMap Atom.text).length := by
  induction as generalizing start with
  | nil => simp [offsets] at ho
  | cons a as ih =>
      obtain ⟨hp, ha⟩ := List.forall_mem_cons.mp ha
      have hl : 0 < a.text.length := Atom.length_pos hp
      rw [List.flatMap_cons, List.length_append]
      rcases List.mem_cons.mp ho with rfl | ho
      · omega
      · have hi := ih ha ho
        simp only [Atom.length] at hi
        omega

theorem lt_of_mem_offsets_lenient (hc : ∀ c ∈ cs, isPunctuation c = true) {o : Nat}
    (ho : o ∈ offsets 0 (lenient cs)) : o < cs.length := by
  have hl := lt_of_mem_offsets (fun a => mem_table_of_mem_lenient) ho
  rwa [flatMap_text_lenient hc, Nat.zero_add] at hl

theorem sum_take_lt (hc : ∀ c ∈ cs, isPunctuation c = true) {k : Nat}
    (hk : k < (lenient cs).length) : (((lenient cs).take k).map Atom.length).sum < cs.length := by
  have ho := List.mem_of_getElem? (getElem?_offsets 0 _ hk)
  rw [Nat.zero_add] at ho
  exact lt_of_mem_offsets_lenient hc ho

end Symbol

end Sigil
