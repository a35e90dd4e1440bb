import Sigil.Proofs.Lexeme
import Sigil.Proofs.Lines

namespace Sigil.Lexer

open Text

/-- The tokens that are read off a line from a column on, where the given text is left, when the
line can be read to its end. -/
inductive Reads (place : Nat → Location) : Nat → Text → List Token → Prop
  | done (column : Nat) : Reads place column [] []
  | blank {column : Nat} {c : Char} {cs : Text} {ts : List Token} (hc : isBlank c = true)
      (h : Reads place (column + 1) cs ts) : Reads place column (c :: cs) ts
  | token {column : Nat} {c : Char} {l : Lexeme} {rest : Text} {ts : List Token}
      (hl : Lexeme.scan c (l.more ++ rest) = .ok l)
      (h : Reads place (column + 1 + l.more.length) rest ts) :
      Reads place column (c :: (l.more ++ rest))
        (⟨l.kind, c :: l.more, l.value, place column, trailing rest⟩ :: ts)

/-- The tokens that are read off lines from a row on, with the end of input behind the last of
them. -/
inductive ReadsLines (source : Source) : Nat → Location → List Text → List Token → Prop
  | done (row : Nat) (ending : Location) : ReadsLines source row ending [] [.endOfInput ending]
  | line {row : Nat} {ending : Location} {l : Text} {ls : List Text} {ts us : List Token}
      (h : Reads (.inSource source row) 0 (stripReturns l) ts)
      (hs : ReadsLines source (row + 1) (.inSource source row (stripReturns l).length) ls us) :
      ReadsLines source row ending (l :: ls) (ts ++ us)

variable {source : Source} {place : Nat → Location} {row column : Nat} {ending : Location}
  {c : Char} {cs l : Text} {ls : List Text} {ts us : List Token}

theorem line_eq_iff : line place column cs = ⟨ts, none⟩ ↔ Reads place column cs ts := by
  constructor
  · intro h
    fun_induction line place column cs generalizing ts with
    | case1 column =>
        obtain rfl : [] = ts := congrArg Run.tokens h
        exact .done column
    | case2 column c cs hc ih => exact .blank hc (ih h)
    | case3 column c cs hc fault hf => simp [Run.stop] at h
    | case4 column c cs hc l hl rest =>
        rename_i ih
        have hcs := List.prefix_iff_eq_append.mp (Lexeme.more_isPrefix_of_scan hl)
        obtain rfl : _ = ts := congrArg Run.tokens h
        rw [← hcs] at hl ⊢
        refine .token hl (ih ?_)
        rw [← show _ = none from congrArg Run.error h]
        rfl
  · intro h
    induction h with
    | done column => rw [line]
    | blank hc _ ih => rw [line, if_pos hc, ih]
    | token hl _ ih =>
        rw [line, if_neg (by simp [Lexeme.isBlank_of_scan hl]), hl]
        simp [ih, Run.cons]

theorem lines_eq_iff :
    lines source row ending ls = ⟨ts, none⟩ ↔ ReadsLines source row ending ls ts := by
  constructor
  · intro h
    induction ls generalizing row ending ts with
    | nil =>
        obtain rfl : _ = ts := congrArg Run.tokens h
        exact .done row ending
    | cons l ls ih =>
        rw [lines, Run.andThen] at h
        split at h
        next => simp at h
        next he =>
          obtain rfl : _ = ts := congrArg Run.tokens h
          refine .line (line_eq_iff.mp ?_) (ih ?_)
          · rw [← he]
          · rw [← show _ = none from congrArg Run.error h]
  · intro h
    induction h with
    | done row ending => rfl
    | line h hs ih => simp [lines, line_eq_iff.mpr h, ih, Run.andThen]

theorem tokenize_eq_ok_iff {text : Text} :
    tokenize text = .ok ts ↔
      ReadsLines (.string none) 0 (.inSource (.string none) 0 0) (inputLines text) ts := by
  rw [← lines_eq_iff, tokenize, lexText, lexLines, Run.toExcept]
  generalize lines _ _ _ _ = r
  obtain ⟨tokens, error⟩ := r
  cases error <;> simp

/-- What a list of tokens begins with when it is left after the first tokens of some lines: either
with what is read off the rest of a line, where no blank comes next, or with the end of input at the
end of the last line. -/
inductive Ahead (source : Source) (row column : Nat) : Text → List Token → Prop
  | token {cs : Text} {ts : List Token} (us : List Token) (hc : trailing cs = false)
      (h : Reads (.inSource source row) column cs ts) : Ahead source row column cs (ts ++ us)
  | ending : Ahead source row column [] [.endOfInput (.inSource source row column)]

theorem Reads.cons_inv (h : Reads place column (c :: cs) ts) (hc : isBlank c = false) :
    ∃ l rest us, cs = l.more ++ rest ∧ Lexeme.scan c (l.more ++ rest) = .ok l ∧
      Reads place (column + 1 + l.more.length) rest us ∧
      ts = ⟨l.kind, c :: l.more, l.value, place column, trailing rest⟩ :: us := by
  cases h with
  | blank hb h => simp [hc] at hb
  | token hl h => exact ⟨_, _, _, rfl, hl, h, rfl⟩

theorem Reads.ne_nil (h : Reads place column cs ts) (hc : trailing cs = false) : ts ≠ [] := by
  cases h with
  | done => simp [trailing] at hc
  | blank hb => simp [trailing, hb] at hc
  | token => exact List.cons_ne_nil _ _

/-- The last token of a line ends it, but for blanks. -/
theorem Reads.trailing_getLast? (h : Reads place column cs ts) :
    ∀ t ∈ ts.getLast?, t.trailing = true := by
  induction h with
  | done => simp
  | blank _ _ ih => exact ih
  | @token column c l rest ts hl h ih =>
      cases ts with
      | nil =>
          -- A rest that begins with a lexeme would give another token.
          have hr : trailing rest = true := by
            by_contra hr
            exact h.ne_nil (Bool.not_eq_true _ ▸ hr) rfl
          simp [hr]
      | cons u us => simpa using ih

theorem Reads.blanks_append {bs : Text} (hb : ∀ c ∈ bs, isBlank c = true)
    (h : Reads place (column + bs.length) cs ts) : Reads place column (bs ++ cs) ts := by
  induction bs generalizing column with
  | nil => exact h
  | cons b bs ih =>
      have hb' := List.forall_mem_cons.mp hb
      refine .blank hb'.1 (ih hb'.2 ?_)
      rwa [Nat.add_assoc, Nat.add_comm 1]

theorem Reads.of_blanks (hc : ∀ c ∈ cs, isBlank c = true) : Reads place column cs [] := by
  have h : Reads place column (cs ++ []) [] := .blanks_append hc (.done (column + cs.length))
  rwa [List.append_nil] at h

theorem Reads.punct (hc : isPunctuation c = true) (h : Reads place (column + 1) cs ts) :
    Reads place column (c :: cs) (.punct c (place column) (trailing cs) :: ts) :=
  .token (l := Lexeme.single .punct c) (Lexeme.scan_of_isPunctuation hc cs) h

theorem Reads.single {l : Lexeme} (h : Lexeme.scan c l.more = .ok l) (place : Nat → Location)
    (column : Nat) :
    Reads place column (c :: l.more) [⟨l.kind, c :: l.more, l.value, place column, true⟩] := by
  have hl : Lexeme.scan c (l.more ++ []) = .ok l := by rwa [List.append_nil]
  have hr : Reads place column (c :: (l.more ++ []))
      [⟨l.kind, c :: l.more, l.value, place column, true⟩] := .token hl (.done _)
  rwa [List.append_nil] at hr

theorem Reads.mem {t : Token} (h : Reads place column cs ts) (ht : t ∈ ts) :
    t.kind ≠ .eof ∧ t.text ≠ [] ∧ ∀ x ∈ t.text, x ∈ cs := by
  induction h with
  | done column => simp at ht
  | blank hc _ ih =>
      obtain ⟨hk, hn, hx⟩ := ih ht
      exact ⟨hk, hn, fun x hm => List.mem_cons_of_mem _ (hx x hm)⟩
  | token hl _ ih =>
      rcases List.mem_cons.mp ht with rfl | ht
      · refine ⟨(Lexeme.kind_of_scan hl).1, List.cons_ne_nil _ _, ?_⟩
        intro x hx
        rw [← List.cons_append]
        exact List.mem_append_left _ hx
      · obtain ⟨hk, hn, hx⟩ := ih ht
        exact ⟨hk, hn, fun x hm => List.mem_cons_of_mem _ (List.mem_append_right _ (hx x hm))⟩

/-- Every token of a line begins the reading of some rest of that line. -/
theorem Reads.drop (h : Reads place column cs ts) {i : Nat} (hi : i < ts.length) :
    ∃ n, trailing (cs.drop n) = false ∧ Reads place (column + n) (cs.drop n) (ts.drop i) := by
  induction h generalizing i with
  | done column => simp at hi
  | @blank column c cs ts hc _ ih =>
      obtain ⟨n, hn, h⟩ := ih hi
      refine ⟨n + 1, hn, ?_⟩
      rwa [show column + (n + 1) = column + 1 + n by omega]
  | @token column c l rest ts hl h ih =>
      cases i with
      | zero =>
          have hc : trailing (c :: (l.more ++ rest)) = false := Lexeme.isBlank_of_scan hl
          exact ⟨0, hc, .token hl h⟩
      | succ i =>
          obtain ⟨n, hn, h⟩ := ih (Nat.lt_of_succ_lt_succ hi)
          have hd : (c :: (l.more ++ rest)).drop (1 + l.more.length + n) = rest.drop n := by
            rw [Nat.add_assoc, Nat.add_comm 1, List.drop_succ_cons, ← List.drop_drop,
              List.drop_left]
          refine ⟨1 + l.more.length + n, ?_, ?_⟩
          · rwa [hd]
          · rwa [hd, ← Nat.add_assoc, ← Nat.add_assoc]

theorem reads_stripReturns_of_blanks (hb : ∀ c ∈ l, isBlank c = true) :
    Reads place column (stripReturns l) [] :=
  .of_blanks fun c hc => hb c (mem_of_mem_stripReturns hc)

theorem ReadsLines.blanks_append {before : List Text}
    (hb : ∀ l ∈ before, ∀ c ∈ l, isBlank c = true)
    (h : ∀ ending, ReadsLines source (row + before.length) ending ls ts) :
    ReadsLines source row ending (before ++ ls) ts := by
  induction before generalizing row ending with
  | nil => exact h ending
  | cons l before ih =>
      obtain ⟨hl, hb⟩ := List.forall_mem_cons.mp hb
      refine .line (reads_stripReturns_of_blanks hl) (ih hb ?_)
      intro ending
      rw [Nat.add_assoc, Nat.add_comm 1]
      exact h ending

theorem ReadsLines.of_blanks (hb : ∀ l ∈ ls, ∀ c ∈ l, isBlank c = true) :
    ∃ e, ReadsLines source row ending ls [.endOfInput e] := by
  induction ls generalizing row ending with
  | nil => exact ⟨ending, .done row ending⟩
  | cons l ls ih =>
      obtain ⟨hl, hb⟩ := List.forall_mem_cons.mp hb
      obtain ⟨e, h⟩ := ih hb
      exact ⟨e, .line (reads_stripReturns_of_blanks hl) h⟩

theorem ReadsLines.ne_nil (h : ReadsLines source row ending ls ts) : ts ≠ [] := by
  induction h with
  | done => exact List.cons_ne_nil _ _
  | line _ _ ih => exact List.append_ne_nil_of_right_ne_nil _ ih

theorem ReadsLines.ends (h : ReadsLines source row ending ls ts) :
    ∃ e, ts = ts.dropLast ++ [.endOfInput e] ∧ (ls = [] → e = ending) ∧
      ∀ l, ls.getLast? = some l →
        e = .inSource source (row + (ls.length - 1)) (stripReturns l).length := by
  induction h with
  | done row ending => exact ⟨ending, rfl, fun _ => rfl, by simp⟩
  | @line row ending l ls ts us h hs ih =>
      obtain ⟨e, hu, hnil, hlast⟩ := ih
      refine ⟨e, ?_, by simp, ?_⟩
      · rw [List.dropLast_append_of_ne_nil hs.ne_nil, List.append_assoc, ← hu]
      · cases ls with
        | nil =>
            intro m hm
            obtain rfl : l = m := Option.some.inj hm
            exact hnil rfl
        | cons l' ls =>
            intro m hm
            rw [List.getLast?_cons_cons] at hm
            rw [hlast m hm, Nat.add_assoc, Nat.add_comm 1]
            rfl

theorem ReadsLines.eq_append (h : ReadsLines source row ending ls ts) :
    ∃ e, ts = ts.dropLast ++ [.endOfInput e] := by
  obtain ⟨e, hts, -⟩ := h.ends
  exact ⟨e, hts⟩

theorem ReadsLines.getLast? (h : ReadsLines source row ending ls ts) :
    ∃ l, ts.getLast? = some (.endOfInput l) := by
  obtain ⟨e, hts⟩ := h.eq_append
  exact ⟨e, by rw [hts, List.getLast?_concat]⟩

theorem ReadsLines.mem_dropLast {t : Token} (h : ReadsLines source row ending ls ts)
    (ht : t ∈ ts.dropLast) : t.kind ≠ .eof ∧ ∃ l ∈ ls, ∀ x ∈ t.text, x ∈ l := by
  induction h with
  | done => simp at ht
  | line h hs ih =>
      rw [List.dropLast_append_of_ne_nil hs.ne_nil] at ht
      rcases List.mem_append.mp ht with ht | ht
      · obtain ⟨hk, -, hx⟩ := h.mem ht
        exact ⟨hk, _, List.mem_cons_self, fun x hm => mem_of_mem_stripReturns (hx x hm)⟩
      · obtain ⟨hk, l, hl, hx⟩ := ih ht
        exact ⟨hk, l, List.mem_cons_of_mem _ hl, hx⟩

theorem ReadsLines.ahead (h : ReadsLines source row ending ls ts) (hls : ls ≠ []) {i : Nat}
    (hi : i < ts.length) :
    ∃ k l n, ls[k]? = some l ∧
      Ahead source (row + k) n ((stripReturns l).drop n) (ts.drop i) := by
  induction h generalizing i with
  | done => exact absurd rfl hls
  | @line row ending l ls ts us h hs ih =>
      by_cases ht : i < ts.length
      · obtain ⟨n, hn, h⟩ := h.drop ht
        refine ⟨0, l, n, rfl, ?_⟩
        rw [List.drop_append_of_le_length (Nat.le_of_lt ht)]
        rw [Nat.zero_add] at h
        exact .token us hn h
      · have hd : (ts ++ us).drop i = us.drop (i - ts.length) := by
          rw [List.drop_append, List.drop_eq_nil_of_le (Nat.le_of_not_lt ht), List.nil_append]
        have hu : i - ts.length < us.length := by
          rw [List.length_append] at hi
          omega
        rw [hd]
        cases ls with
        | nil =>
            cases hs with
            | done =>
                -- Behind the last line there is only the end of input.
                have hz : i - ts.length = 0 := Nat.lt_one_iff.mp hu
                refine ⟨0, l, (stripReturns l).length, rfl, ?_⟩
                rw [hz, List.drop_length]
                exact .ending
        | cons m ls =>
            obtain ⟨k, l', n, hk, ha⟩ := ih (List.cons_ne_nil m ls) hu
            refine ⟨k + 1, l', n, hk, ?_⟩
            rwa [Nat.add_comm k, ← Nat.add_assoc]

end Sigil.Lexer
