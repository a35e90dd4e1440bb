import Sigil.Proofs.WholeText

namespace Sigil

open Text Lexer

variable {source : Source} {place : Nat → Location} {row column : Nat} {ending : Location}
  {cs s text : Text} {ls : List Text} {ts : List Token} {t : Token}

namespace Lexer

/-- Punctuation characters in a row are all joint but the last of them. -/
theorem getElem?_punctRun (hs : ∀ c ∈ s, isPunctuation c = true) (place : Nat → Location)
    (column : Nat) (rest : Text) (k : Nat) :
    (punctRun place column s rest)[k]? = s[k]?.map fun c =>
      .punct c (place (column + k)) (decide (k + 1 = s.length) && trailing rest) := by
  induction s generalizing column k with
  | nil => simp [punctRun]
  | cons c s ih =>
      obtain ⟨-, hs⟩ := List.forall_mem_cons.mp hs
      cases k with
      | succ k =>
          have hp : column + 1 + k = column + (k + 1) := by omega
          rw [punctRun, List.getElem?_cons_succ, ih hs, hp]
          simp
      | zero =>
          cases s with
          | nil => simp [punctRun]
          | cons d s =>
              have hd : trailing (d :: (s ++ rest)) = false :=
                trailing_cons_of_isPunctuation (hs d List.mem_cons_self) _
              simp [punctRun, hd]

theorem Reads.text_of_punct (h : Reads place column cs ts) (ht : t ∈ ts) (hk : t.kind = .punct) :
    ∃ c, t.text = [c] ∧ isPunctuation c = true := by
  induction h with
  | done => simp at ht
  | blank _ _ ih => exact ih ht
  | @token column c l rest ts hl _ ih =>
      rcases List.mem_cons.mp ht with rfl | ht
      · have hc : isPunctuation c = true := (Lexeme.kind_of_scan hl).2.mp hk
        rw [Lexeme.scan_of_isPunctuation hc] at hl
        rw [← Except.ok.inj hl]
        exact ⟨c, rfl, hc⟩
      · exact ih ht

theorem ReadsLines.text_of_punct (h : ReadsLines source row ending ls ts) (ht : t ∈ ts)
    (hk : t.kind = .punct) : ∃ c, t.text = [c] ∧ isPunctuation c = true := by
  induction h with
  | done =>
      rw [List.mem_singleton.mp ht] at hk
      contradiction
  | line h _ ih =>
      rcases List.mem_append.mp ht with ht | ht
      · exact h.text_of_punct ht hk
      · exact ih ht

end Lexer

/-- As many single characters as there are characters leave no room for anything else. -/
theorem Covers.isPunctuation (h : Covers cs ts)
    (ht : ∀ t ∈ ts, ∃ c, t.text = [c] ∧ isPunctuation c = true) :
    ts.length ≤ cs.length ∧ (ts.length = cs.length → ∀ c ∈ cs, isPunctuation c = true) := by
  induction h with
  | nil => simp
  | blank hc _ ih =>
      obtain ⟨hle, -⟩ := ih ht
      refine ⟨Nat.le_succ_of_le hle, fun hl => ?_⟩
      rw [List.length_cons] at hl
      omega
  | token hn htr _ ih =>
      obtain ⟨⟨c, htext, hc⟩, ht⟩ := List.forall_mem_cons.mp ht
      obtain ⟨hle, hall⟩ := ih ht
      rw [htext]
      refine ⟨Nat.succ_le_succ hle, fun hl => ?_⟩
      exact List.forall_mem_cons.mpr ⟨hc, hall (Nat.succ_injective hl)⟩

theorem tokenize_of_isPunctuation (hs : ∀ c ∈ s, isPunctuation c = true) :
    tokenize s = .ok (punctRun (.inSource (.string none) 0) 0 s [] ++
      [.endOfInput (.inSource (.string none) 0 s.length)]) := by
  have hend : ∀ c ∈ s, isLineEnd c = false := fun c hc =>
    isLineEnd_of_not_isBlank (isBlank_of_isPunctuation (hs c hc))
  have hr : Reads (.inSource (.string none) 0) 0 (s ++ [])
      (punctRun (.inSource (.string none) 0) 0 s [] ++ []) :=
    (reads_append_iff hs).mpr ⟨[], rfl, .done _⟩
  rw [List.append_nil, List.append_nil, ← stripReturns_eq_self hend] at hr
  rw [tokenize_eq_ok_iff, inputLines_of_no_lineEnd hend]
  have hl : ReadsLines (.string none) 0 (.inSource (.string none) 0 0) [s] _ :=
    .line hr (.done 1 _)
  rwa [stripReturns_eq_self hend] at hl

theorem isPunctuation_of_tokenize (h : tokenize s = .ok (ts ++ [t])) (hl : ts.length = s.length)
    (hk : ∀ t ∈ ts, t.kind = .punct) : ∀ c ∈ s, isPunctuation c = true := by
  have hc := covers_of_tokenize h
  rw [List.dropLast_concat] at hc
  refine (hc.isPunctuation fun u hu => ?_).2 hl
  exact (tokenize_eq_ok_iff.mp h).text_of_punct (List.mem_append_left _ hu) (hk u hu)

/-- The table of atoms and the lexer take the same characters for punctuation: a symbol has atoms
just where it is read as one punctuation token for each character. These tokens lie side by side,
and only the last of them is not joint. -/
theorem strict_ok_iff_tokenize (hn : s ≠ []) :
    ((∃ as, Symbol.strict s = .ok as) ↔
      ∃ (ts : List Token) (last : Token), tokenize s = .ok (ts ++ [last]) ∧ last.kind = .eof ∧
        ts.length = s.length ∧ ∀ t ∈ ts, t.kind = .punct) ∧
    ∀ (ts : List Token) (last : Token), tokenize s = .ok (ts ++ [last]) →
      ts.length = s.length → (∀ t ∈ ts, t.kind = .punct) →
      ∀ (k : Nat) (hk : k < s.length), ts[k]? =
        some (.punct s[k] (.inSource (.string none) 0 k) (decide (k + 1 = s.length))) := by
  refine ⟨⟨?_, ?_⟩, ?_⟩
  · rintro ⟨as, h⟩
    obtain ⟨-, hs, -⟩ := Symbol.strict_ok_iff.mp h
    refine ⟨_, _, tokenize_of_isPunctuation hs, rfl, length_punctRun _ _ _ _, fun t ht => ?_⟩
    obtain ⟨k, hk⟩ := List.getElem?_of_mem ht
    rw [getElem?_punctRun hs] at hk
    obtain ⟨c, -, rfl⟩ := Option.map_eq_some_iff.mp hk
    rfl
  · rintro ⟨ts, last, h, -, hl, hk⟩
    exact ⟨_, Symbol.strict_ok_iff.mpr ⟨hn, isPunctuation_of_tokenize h hl hk, rfl⟩⟩
  · intro ts last h hl hp k hk
    have hs := isPunctuation_of_tokenize h hl hp
    rw [tokenize_of_isPunctuation hs] at h
    obtain ⟨rfl, -⟩ := List.append_inj' (Except.ok.inj h) rfl
    rw [getElem?_punctRun hs, List.getElem?_eq_getElem hk]
    simp [trailing]

theorem strict_ok_iff_tokenize_of_shift :
    ∃ (ts : List Token) (last : Token),
      tokenize ['<', '<', '=', '>'] = .ok (ts ++ [last]) ∧ ts.length = 4 ∧
      ts[2]? = some (.punct '=' (.inSource (.string none) 0 2) false) ∧
      ¬ ∃ as, Symbol.strict ['<', ' ', '='] = .ok as := by
  have hs : Symbol.strict ['<', '<', '=', '>'] = .ok [⟨['<', '<', '=']⟩, ⟨['>']⟩] := by cbv
  obtain ⟨hiff, hat⟩ := strict_ok_iff_tokenize (s := ['<', '<', '=', '>']) (by decide)
  obtain ⟨ts, last, h, -, hl, hk⟩ := hiff.mp ⟨_, hs⟩
  refine ⟨ts, last, h, hl, hat ts last h hl hk 2 (by decide), ?_⟩
  rw [(strict_ok_iff_tokenize (by decide)).1]
  rintro ⟨us, last, h, -, hl, hk⟩
  have hb := isPunctuation_of_tokenize h hl hk ' ' (by decide)
  revert hb
  decide

end Sigil
