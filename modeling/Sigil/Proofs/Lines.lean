import Sigil.Proofs.Characters

namespace Sigil.Text

/-- A text without the blanks at its ends. -/
def strip (cs : Text) : Text := dropTrailing isBlank (cs.dropWhile isBlank)

/-- The row and the column that reading a text leads to from the given ones. -/
def reach (row column : Nat) : Text → Nat × Nat
  | [] => (row, column)
  | '\r' :: '\n' :: cs => reach (row + 1) 0 cs
  | c :: cs => if isLineEnd c then reach (row + 1) 0 cs else reach row (column + 1) cs

variable {p : Char → Bool} {c : Char} {cs l s : Text} {ls : List Text}

theorem dropTrailing_append {a b : Text} (hb : ∀ c ∈ b, p c = true) :
    dropTrailing p (a ++ b) = dropTrailing p a := by
  rw [dropTrailing, List.reverse_append, List.dropWhile_append_of_pos (by simpa using hb)]
  rfl

theorem dropTrailing_eq_self (h : ∀ c ∈ cs.getLast?, p c = false) : dropTrailing p cs = cs := by
  have hr : cs.reverse.dropWhile p = cs.reverse := by
    cases hd : cs.reverse with
    | nil => rfl
    | cons c r =>
        have hc : p c = false := h c (by rw [List.getLast?_eq_head?_reverse, hd]; rfl)
        rw [List.dropWhile_cons_of_neg (by simp [hc])]
  rw [dropTrailing, hr, List.reverse_reverse]

theorem exists_dropTrailing (p : Char → Bool) (cs : Text) :
    ∃ b, (∀ c ∈ b, p c = true) ∧ cs = dropTrailing p cs ++ b := by
  refine ⟨(cs.reverse.takeWhile p).reverse, ?_, ?_⟩
  · intro c hc
    exact List.mem_takeWhile_imp (List.mem_reverse.mp hc)
  · rw [dropTrailing, ← List.reverse_append, List.takeWhile_append_dropWhile, List.reverse_reverse]

theorem takeWhile_isBlank_append {a : Text} (ha : ∀ c ∈ a, isBlank c = true) (hs : s ≠ [])
    (hb : ∀ c ∈ s, isBlank c = false) (b : Text) : (a ++ (s ++ b)).takeWhile isBlank = a := by
  obtain ⟨c, s, rfl⟩ := List.exists_cons_of_ne_nil hs
  have hc : isBlank c = false := hb c List.mem_cons_self
  rw [List.takeWhile_append_of_pos ha, List.cons_append,
    List.takeWhile_cons_of_neg (by simp [hc]), List.append_nil]

/-- A text that begins and ends with no blank is what stripping leaves just when blanks stand
around it. -/
theorem strip_eq_iff (hs : s ≠ []) (hb : ∀ c ∈ s, isBlank c = false) :
    strip cs = s ↔ ∃ a b, (∀ c ∈ a, isBlank c = true) ∧ (∀ c ∈ b, isBlank c = true) ∧
      cs = a ++ (s ++ b) := by
  constructor
  · intro h
    obtain ⟨b, hb, hd⟩ := exists_dropTrailing isBlank (cs.dropWhile isBlank)
    refine ⟨cs.takeWhile isBlank, b, fun c => List.mem_takeWhile_imp, hb, ?_⟩
    rw [← h, strip, ← hd, List.takeWhile_append_dropWhile]
  · rintro ⟨a, b, ha, hb', rfl⟩
    have hd : a ++ (a ++ (s ++ b)).dropWhile isBlank = a ++ (s ++ b) := by
      nth_rewrite 1 [← takeWhile_isBlank_append ha hs hb b]
      exact List.takeWhile_append_dropWhile
    rw [strip, List.append_cancel_left hd, dropTrailing_append hb']
    exact dropTrailing_eq_self fun c hc => hb c (List.mem_of_getLast? hc)

theorem lines_of_isLineEnd (hc : isLineEnd c = true) (hn : c = '\r' → cs.head? ≠ some '\n') :
    lines (c :: cs) = [] :: lines cs := by
  rw [lines.eq_3, if_pos hc]
  rintro cs' rfl rfl
  exact hn rfl rfl

theorem lines_of_not_isLineEnd (hc : isLineEnd c = false) :
    lines (c :: cs) = match lines cs with
      | [] => [[c]]
      | l :: ls => (c :: l) :: ls := by
  have hr : ∀ cs', c = '\r' → cs = '\n' :: cs' → False := by
    rintro cs' rfl rfl
    simp [isLineEnd_of_return (.inl rfl)] at hc
  have h := lines.eq_3 c cs hr
  rw [if_neg (by simp [hc])] at h
  exact h

theorem lines_cons_ne_nil (c : Char) (cs : Text) : lines (c :: cs) ≠ [] := by
  rw [lines.eq_def]
  split
  next h => exact absurd h (List.cons_ne_nil c cs)
  next => exact List.cons_ne_nil _ _
  next =>
    split
    next => exact List.cons_ne_nil _ _
    next => split <;> exact List.cons_ne_nil _ _

theorem lines_eq_cons (h : lines cs = l :: ls) :
    ∃ sep rest, cs = l ++ (sep ++ rest) ∧ lines rest = ls ∧ (∀ c ∈ l, isLineEnd c = false) ∧
      (∀ c ∈ sep, isLineEnd c = true) ∧ (sep = [] → rest = []) := by
  fun_induction lines cs generalizing l ls with
  | case1 => simp at h
  | case2 cs =>
      obtain ⟨rfl, rfl⟩ := List.cons.inj h
      exact ⟨['\r', '\n'], cs, rfl, rfl, by simp, forall_mem_of_all (by decide), by simp⟩
  | case3 c cs _ hc =>
      obtain ⟨rfl, rfl⟩ := List.cons.inj h
      exact ⟨[c], cs, rfl, rfl, by simp, by simpa using hc, by simp⟩
  | case4 c cs _ hc hl =>
      obtain rfl : cs = [] := by
        cases cs with
        | nil => rfl
        | cons d cs => exact absurd hl (lines_cons_ne_nil d cs)
      obtain ⟨rfl, rfl⟩ := List.cons.inj h
      exact ⟨[], [], rfl, rfl, by simpa using hc, by simp, fun _ => rfl⟩
  | case5 c cs _ hc l ls hl ih =>
      obtain ⟨sep, rest, rfl, hr, hn, hs, hz⟩ := ih hl
      obtain ⟨rfl, rfl⟩ := List.cons.inj h
      refine ⟨sep, rest, rfl, hr, ?_, hs, hz⟩
      exact List.forall_mem_cons.mpr ⟨by simpa using hc, hn⟩

theorem mem_lines (hl : l ∈ lines cs) : ∀ c ∈ l, c ∈ cs ∧ isLineEnd c = false := by
  induction hm : lines cs generalizing cs with
  | nil => simp [hm] at hl
  | cons m ms ih =>
      obtain ⟨sep, rest, rfl, rfl, hn, -⟩ := lines_eq_cons hm
      intro c hc
      rw [hm] at hl
      rcases List.mem_cons.mp hl with rfl | hl
      · exact ⟨List.mem_append_left _ hc, hn c hc⟩
      · obtain ⟨hr, he⟩ := ih hl rfl c hc
        exact ⟨List.mem_append_right _ (List.mem_append_right _ hr), he⟩

theorem inputLines_eq_lines (h : cs ≠ []) : inputLines cs = lines cs := by
  obtain ⟨c, cs, rfl⟩ := List.exists_cons_of_ne_nil h
  unfold inputLines
  split
  next hl => exact absurd hl (lines_cons_ne_nil c cs)
  next => rfl

theorem mem_inputLines (hl : l ∈ inputLines cs) : ∀ c ∈ l, c ∈ cs ∧ isLineEnd c = false := by
  unfold inputLines at hl
  split at hl
  next => rw [List.mem_singleton.mp hl]; simp
  next hm => exact mem_lines hl

theorem exists_stripReturns (l : Text) :
    ∃ b, (∀ c ∈ b, isLineEnd c = true) ∧ l = stripReturns l ++ b := by
  obtain ⟨b, hb, hl⟩ := exists_dropTrailing (fun c => c = '\r' || c = '\n') l
  exact ⟨b, fun c hc => isLineEnd_of_return (by simpa using hb c hc), hl⟩

theorem mem_of_mem_stripReturns (hc : c ∈ stripReturns l) : c ∈ l := by
  obtain ⟨b, -, hb⟩ := exists_stripReturns l
  rw [hb]
  exact List.mem_append_left _ hc

theorem stripReturns_eq_self (h : ∀ c ∈ l, isLineEnd c = false) : stripReturns l = l := by
  apply dropTrailing_eq_self
  intro c hc
  have hn := h c (List.mem_of_getLast? hc)
  rw [Bool.eq_false_iff] at hn ⊢
  intro hr
  exact hn (isLineEnd_of_return (by simpa using hr))

theorem lines_append_left (hs : s ≠ []) (hn : ∀ c ∈ s, isLineEnd c = false) (cs : Text) :
    lines (s ++ cs) = (s ++ (lines cs).headD []) :: (lines cs).tail := by
  induction s with
  | nil => exact absurd rfl hs
  | cons c s ih =>
      obtain ⟨hc, hn⟩ := List.forall_mem_cons.mp hn
      rw [List.cons_append, lines_of_not_isLineEnd hc]
      by_cases hz : s = []
      · subst s
        cases hl : lines cs <;> simp [hl]
      · rw [ih hz hn]
        rfl

theorem inputLines_of_no_lineEnd (hn : ∀ c ∈ cs, isLineEnd c = false) : inputLines cs = [cs] := by
  by_cases hz : cs = []
  · subst cs
    rfl
  · have h := lines_append_left hz hn []
    rw [List.append_nil] at h
    rw [inputLines_eq_lines hz, h]
    simp [lines]

theorem head?_append_ne {bs : Text} (hc : isLineEnd c = false) (hb : ∀ ds, bs ≠ '\n' :: ds) :
    (bs ++ c :: cs).head? ≠ some '\n' := by
  cases bs with
  | nil =>
      intro h
      have hn : c = '\n' := Option.some.inj h
      rw [isLineEnd_of_return (.inr hn)] at hc
      contradiction
  | cons d bs =>
      intro h
      exact hb bs (by rw [show d = '\n' from Option.some.inj h])

/-- Text before the first character of a line becomes lines of its own and the beginning of that
line. -/
theorem lines_append_right (bs : Text) (row column : Nat) (hc : isLineEnd c = false)
    (hl : lines (c :: cs) = l :: ls) :
    ∃ before w, lines (bs ++ c :: cs) = before ++ (w ++ l) :: ls ∧ before.flatten ++ w ⊆ bs ∧
      reach row column bs =
        (row + before.length, (if before = [] then column else 0) + w.length) := by
  -- Reading on from one place to the next ends a line just where `lines` does.
  fun_induction reach row column bs with
  | case1 row column => exact ⟨[], [], hl, List.Subset.refl _, by simp⟩
  | case2 row column bs ih =>
      obtain ⟨before, w, h, hw, hr⟩ := ih
      refine ⟨[] :: before, w, congrArg ([] :: ·) h, ?_, ?_⟩
      · exact List.subset_cons_of_subset _ (List.subset_cons_of_subset _ hw)
      · rw [hr, List.length_cons, ite_self, if_neg (List.cons_ne_nil _ _), Nat.add_assoc,
          Nat.add_comm 1]
  | case3 row column b bs hn hb ih =>
      obtain ⟨before, w, h, hw, hr⟩ := ih
      have hf : b = '\r' → (bs ++ c :: cs).head? ≠ some '\n' := by
        rintro rfl
        exact head?_append_ne hc fun ds => hn ds rfl
      refine ⟨[] :: before, w, ?_, List.subset_cons_of_subset _ hw, ?_⟩
      · rw [List.cons_append, lines_of_isLineEnd hb hf, h]
        rfl
      · rw [hr, List.length_cons, ite_self, if_neg (List.cons_ne_nil _ _), Nat.add_assoc,
          Nat.add_comm 1]
  | case4 row column b bs hn hb ih =>
      obtain ⟨before, w, h, hw, hr⟩ := ih
      have hb' : isLineEnd b = false := by simpa using hb
      cases before with
      | nil =>
          refine ⟨[], b :: w, ?_, List.cons_subset_cons b hw, ?_⟩
          · rw [List.cons_append, lines_of_not_isLineEnd hb', h]
            rfl
          · rw [hr, if_pos rfl, if_pos rfl, List.length_cons, Nat.add_assoc, Nat.add_comm 1]
      | cons m before =>
          refine ⟨(b :: m) :: before, w, ?_, List.cons_subset_cons b hw, hr⟩
          rw [List.cons_append, lines_of_not_isLineEnd hb', h]
          rfl

/-- A part of a line stands on one line, where reading the text before it leads. -/
theorem lines_around (a b : Text) (hs : s ≠ []) (hn : ∀ c ∈ s, isLineEnd c = false) :
    ∃ before w e after, lines (a ++ (s ++ b)) = before ++ (w ++ (s ++ e)) :: after ∧
      reach 0 0 a = (before.length, w.length) ∧
      (∀ l ∈ before, ∀ c ∈ l, c ∈ a) ∧ (∀ c ∈ w, c ∈ a) ∧
      (∀ c ∈ e, c ∈ b) ∧ ∀ l ∈ after, ∀ c ∈ l, c ∈ b := by
  have hl := lines_append_left hs hn b
  obtain ⟨c, s, rfl⟩ := List.exists_cons_of_ne_nil hs
  obtain ⟨before, w, h, hw, hr⟩ := lines_append_right a 0 0 (hn c List.mem_cons_self) hl
  refine ⟨before, w, (lines b).headD [], (lines b).tail, h, by simpa using hr, ?_, ?_, ?_, ?_⟩
  · intro l hl c hc
    exact hw (List.mem_append_left _ (List.mem_flatten.mpr ⟨l, hl, hc⟩))
  · exact fun c hc => hw (List.mem_append_right _ hc)
  · cases hm : lines b with
    | nil => simp
    | cons m ms =>
        have hmem : m ∈ lines b := by simp [hm]
        exact fun c hc => (mem_lines hmem c hc).1
  · exact fun l hl c hc => (mem_lines (List.mem_of_mem_tail hl) c hc).1

end Sigil.Text
