import Sigil.Rule
import Sigil.Proofs.Parsing

namespace Sigil

open Text Lexer

/-- The text consists of the texts of the tokens, with blanks between them wherever they are not
joint. -/
inductive Covers : Text → List Token → Prop
  | nil : Covers [] []
  | blank {c : Char} {cs : Text} {ts : List Token} (hc : isBlank c = true) (h : Covers cs ts) :
      Covers (c :: cs) ts
  | token {t : Token} {rest : Text} {ts : List Token} (hn : t.text ≠ [])
      (ht : t.trailing = trailing rest) (h : Covers rest ts) : Covers (t.text ++ rest) (t :: ts)

namespace Covers

variable {x y rest s : Text} {ts us : List Token} {place : Nat → Location} {column : Nat}

theorem of_reads (h : Reads place column x ts) : Covers x ts := by
  induction h with
  | done column => exact .nil
  | blank hc _ ih => exact .blank hc ih
  | @token column c l rest ts hl _ ih =>
      exact Covers.token (t := ⟨l.kind, c :: l.more, l.value, place column, trailing rest⟩)
        (List.cons_ne_nil c l.more) rfl ih

theorem blanks_append (hx : ∀ c ∈ x, isBlank c = true) (h : Covers y ts) : Covers (x ++ y) ts := by
  induction x with
  | nil => exact h
  | cons c x ih =>
      obtain ⟨hc, hx⟩ := List.forall_mem_cons.mp hx
      exact .blank hc (ih hx)

theorem append (h : Covers x ts) (hy : Covers y us) (ht : trailing y = true) :
    Covers (x ++ y) (ts ++ us) := by
  induction h with
  | nil => exact hy
  | blank hc _ ih => exact .blank hc ih
  | @token t rest ts hn hr _ ih =>
      rw [List.append_assoc]
      refine .token hn ?_ ih
      rw [hr]
      cases rest with
      | nil => exact ht.symm
      | cons c rest => rfl

theorem blank_of_nil (h : Covers x []) : ∀ c ∈ x, isBlank c = true := by
  generalize hts : [] = ts at h
  induction h with
  | nil => simp
  | blank hc _ ih => exact List.forall_mem_cons.mpr ⟨hc, ih hts⟩
  | token => simp at hts

/-- A run of tokens that is spelled stands in one piece, behind blanks. -/
theorem exists_of_spells (h : Covers x ts) (hs : Token.spells s ts = true) :
    ∃ a b, (∀ c ∈ a, isBlank c = true) ∧ x = a ++ (s ++ b) ∧ Covers b (ts.drop s.length) := by
  induction h generalizing s with
  | nil =>
      have hl := Token.length_le_of_spells hs
      obtain rfl := List.eq_nil_of_length_eq_zero (Nat.le_zero.mp hl)
      exact ⟨[], [], by simp, rfl, .nil⟩
  | @blank c cs ts hc _ ih =>
      obtain ⟨a, b, ha, rfl, hb⟩ := ih hs
      exact ⟨c :: a, b, List.forall_mem_cons.mpr ⟨hc, ha⟩, rfl, hb⟩
  | @token t rest ts hn ht h ih =>
      cases s with
      | nil => exact ⟨[], t.text ++ rest, by simp, rfl, .token hn ht h⟩
      | cons d s =>
          obtain ⟨-, htext, hj, hs⟩ := Token.spells_cons.mp hs
          rcases hj with rfl | hj
          · exact ⟨[], rest, by simp, by rw [htext]; rfl, h⟩
          · obtain ⟨a, b, ha, rfl, hb⟩ := ih hs
            -- No blank comes right behind a joint token.
            obtain rfl : a = [] := by
              cases a with
              | nil => rfl
              | cons c a =>
                  rw [hj] at ht
                  have hc : isBlank c = true := ha c List.mem_cons_self
                  simp [trailing, hc] at ht
            exact ⟨[], b, by simp, by rw [htext]; rfl, hb⟩

theorem around_of_spells (h : Covers x ts) (hs : Token.spells s ts = true)
    (hl : ts.length = s.length) :
    ∃ a b, (∀ c ∈ a, isBlank c = true) ∧ (∀ c ∈ b, isBlank c = true) ∧ x = a ++ (s ++ b) := by
  obtain ⟨a, b, ha, rfl, hb⟩ := h.exists_of_spells hs
  rw [← hl, List.drop_length] at hb
  exact ⟨a, b, ha, hb.blank_of_nil, rfl⟩

end Covers

variable {source : Source} {row : Nat} {ending : Location} {text s : Text} {ls : List Text}
  {tokens ts : List Token} {p : Punctuation}

theorem covers_of_readsLines (h : ReadsLines source row ending ls tokens) (hl : lines text = ls) :
    Covers text tokens.dropLast := by
  induction h generalizing text with
  | done row ending =>
      cases text with
      | nil => exact .nil
      | cons c cs => exact absurd hl (lines_cons_ne_nil c cs)
  | line h hs ih =>
      obtain ⟨sep, rest, rfl, hr, hn, hsep, hz⟩ := lines_eq_cons hl
      rw [stripReturns_eq_self hn] at h
      rw [List.dropLast_append_of_ne_nil hs.ne_nil]
      refine (Covers.of_reads h).append ((ih hr).blanks_append ?_) ?_
      · exact fun c hc => isBlank_of_isLineEnd (hsep c hc)
      · cases sep with
        | nil =>
            rw [hz rfl]
            rfl
        | cons c sep => exact isBlank_of_isLineEnd (hsep c List.mem_cons_self)

theorem covers_of_tokenize (h : tokenize text = .ok tokens) : Covers text tokens.dropLast := by
  have hr := tokenize_eq_ok_iff.mp h
  cases text with
  | nil =>
      change ReadsLines _ _ _ [[]] tokens at hr
      clear h
      cases hr with
      | line h hs =>
          cases hs
          cases h
          exact .nil
  | cons c cs => exact covers_of_readsLines hr (inputLines_eq_lines (List.cons_ne_nil c cs)).symm

/-- Punctuation with blanks around it has one token for each character, the first of them where
reading the blanks before it leads. -/
theorem tokenize_of_around {a b : Text} (ha : ∀ c ∈ a, isBlank c = true)
    (hb : ∀ c ∈ b, isBlank c = true) (hn : s ≠ []) (hs : ∀ c ∈ s, isPunctuation c = true) :
    ∃ rest ts e, tokenize (a ++ (s ++ b)) = .ok (ts ++ [.endOfInput e]) ∧ ts.length = s.length ∧
      Ahead (.string none) (reach 0 0 a).1 (reach 0 0 a).2 (s ++ rest) (ts ++ [.endOfInput e]) := by
  have hend : ∀ c ∈ s, isLineEnd c = false := fun c hc =>
    isLineEnd_of_not_isBlank (isBlank_of_isPunctuation (hs c hc))
  obtain ⟨before, w, e, after, hlines, hreach, hbefore, hw, he, hafter⟩ := lines_around a b hn hend
  have hne : a ++ (s ++ b) ≠ [] := by simp [hn]
  have hline : stripReturns (w ++ (s ++ e)) = w ++ (s ++ e) := by
    apply stripReturns_eq_self
    intro c hc
    have hm : w ++ (s ++ e) ∈ lines (a ++ (s ++ b)) := by simp [hlines]
    exact (mem_lines hm c hc).2
  obtain ⟨ending, hafter⟩ : ∃ l, ReadsLines (.string none) (before.length + 1)
      (.inSource (.string none) before.length (w ++ (s ++ e)).length) after [.endOfInput l] :=
    ReadsLines.of_blanks fun l hl c hc => hb c (hafter l hl c hc)
  have hreads : Reads (.inSource (.string none) before.length) w.length (s ++ e)
      (punctRun (.inSource (.string none) before.length) w.length s e ++ []) :=
    (reads_append_iff hs).mpr ⟨[], rfl, .of_blanks fun c hc => hb c (he c hc)⟩
  rw [List.append_nil] at hreads
  refine ⟨e, punctRun (.inSource (.string none) before.length) w.length s e, ending, ?_, ?_, ?_⟩
  · rw [tokenize_eq_ok_iff, inputLines_eq_lines hne, hlines]
    refine .blanks_append (fun l hl c hc => ha c (hbefore l hl c hc)) fun ending => ?_
    apply ReadsLines.line
    · rw [hline]
      exact .blanks_append (fun c hc => ha c (hw c hc)) (by simpa using hreads)
    · rw [hline]
      simpa using hafter
  · exact length_punctRun _ _ _ _
  · rw [hreach]
    refine .token _ ?_ hreads
    obtain ⟨c, s, rfl⟩ := List.exists_cons_of_ne_nil hn
    exact trailing_cons_of_isPunctuation (hs c List.mem_cons_self) (s ++ e)

theorem parseText_type_ok_iff (hp : p.features.parsing = true) {y : Yield} :
    parseText text (.type p) = .ok y ↔
      ∃ tokens, tokenize text = .ok tokens ∧ Token.spells p.symbol tokens = true ∧
        tokens[p.symbol.length]?.map Token.kind = some .eof ∧
        y = .item ⟨p, Stream.atomLocations p.symbol (tokens.take p.symbol.length)⟩ := by
  cases ht : tokenize text with
  | error e => simp [parseText, Stream.open?, ht, bind, Except.bind]
  | ok tokens =>
      obtain ⟨b, ho, rfl⟩ := exists_open_of_tokenize ht 0
      have hparse := Punctuation.parse_eq hp b.length_pos
      rw [List.drop_zero, Nat.zero_add] at hparse
      simp only [parseText, ho, bind, Except.bind, Parsable.run, hparse]
      cases hs : Token.spells p.symbol b.tokens with
      | false => simp [Outcome.ofStep, Outcome.map, Except.map, hs]
      | true =>
          have hlt : p.symbol.length < b.tokens.length := by
            have h : 0 + p.symbol.length < b.tokens.length := Buffer.add_length_lt b.length_pos hs
            rwa [Nat.zero_add] at h
          simp only [if_true, Outcome.ofStep, Outcome.map, Except.map, Stream.isEmpty_eq hlt,
            decide_eq_true_eq, Except.ok.injEq, exists_eq_left', hs, true_and,
            List.getElem?_eq_getElem hlt, Option.map_some, Option.some.injEq]
          split
          next he => simp [he, pure, Except.pure, eq_comm]
          next he => simp [he]

theorem parseText_of_around (hp : p.features.parsing = true) {a b : Text}
    (ha : ∀ c ∈ a, isBlank c = true) (hb : ∀ c ∈ b, isBlank c = true) :
    ∃ ls, parseText (a ++ (p.symbol ++ b)) (.type p) = .ok (.item ⟨p, ls⟩) ∧
      ls.length = p.atoms.length ∧
      ∀ k < p.atoms.length, ls[k]? = some (.inSource (.string none) (reach 0 0 a).1
        ((reach 0 0 a).2 + ((p.atoms.take k).map Atom.length).sum)) := by
  obtain ⟨hn, hs, hatoms⟩ := p.symbol_spec
  obtain ⟨rest, ts, e, ht, hl, hahead⟩ := tokenize_of_around ha hb hn hs
  have hp' := List.prefix_append p.symbol rest
  refine ⟨_, (parseText_type_ok_iff hp).mpr ⟨_, ht, ?_, ?_, rfl⟩, ?_⟩
  · exact (hahead.spells_iff hn hs).mpr hp'
  · simp [← hl, Token.endOfInput]
  · rw [hatoms]
    exact hahead.atomLocations hn hs hp'

theorem strip_of_parseText (hp : p.features.parsing = true) {y : Yield}
    (hy : parseText text (.type p) = .ok y) : strip text = p.symbol := by
  obtain ⟨hn, hs, -⟩ := p.symbol_spec
  obtain ⟨tokens, ht, hsp, he, -⟩ := (parseText_type_ok_iff hp).mp hy
  have hc := covers_of_tokenize ht
  have hr := tokenize_eq_ok_iff.mp ht
  have hk : ∀ t ∈ tokens.dropLast, t.kind ≠ .eof := fun t ht => (hr.mem_dropLast ht).1
  obtain ⟨e, htokens⟩ := hr.eq_append
  generalize tokens.dropLast = ts at htokens hc hk
  subst htokens
  -- The end of input comes right behind the symbol, so there are as many tokens as characters.
  have hl : ts.length = p.symbol.length := by
    rcases Nat.lt_trichotomy ts.length p.symbol.length with hlt | heq | hgt
    · rw [List.getElem?_eq_none (by simpa using Nat.succ_le_of_lt hlt)] at he
      simp at he
    · exact heq
    · rw [List.getElem?_append_left hgt, List.getElem?_eq_getElem hgt] at he
      exact absurd (Option.some.inj he) (hk _ (List.getElem_mem hgt))
  rw [Token.spells_append (Nat.le_of_eq hl.symm)] at hsp
  apply (strip_eq_iff hn fun c hc => isBlank_of_isPunctuation (hs c hc)).mpr
  exact hc.around_of_spells hsp hl

/-- A whole text is parsed as a declared type just where it is the symbol with blanks around it.
Each atom is then located behind the place that reading the blanks before the symbol leads to, as
far as the atoms before it reach. -/
theorem parseText_declared_iff_strip {serial : Nat} {name : String} {symbol : Text}
    {features : Features} {module : String}
    (hd : Punctuation.declare serial name symbol features module = .ok p)
    (hf : features.parsing = true) (text : Text) :
    ((∃ y, parseText text (.type p) = .ok y) ↔ strip text = symbol) ∧
      ∀ y, parseText text (.type p) = .ok y → ∃ ls, y = .item ⟨p, ls⟩ ∧
        ls.length = p.atoms.length ∧
        ∀ k < p.atoms.length, ls[k]? = some (.inSource (.string none)
          (reach 0 0 (text.takeWhile isBlank)).1
          ((reach 0 0 (text.takeWhile isBlank)).2 + ((p.atoms.take k).map Atom.length).sum)) := by
  obtain ⟨rfl, rfl⟩ := Punctuation.declare_ok hd
  obtain ⟨hn, hs, -⟩ := p.symbol_spec
  have hb : ∀ c ∈ p.symbol, isBlank c = false := fun c hc => isBlank_of_isPunctuation (hs c hc)
  refine ⟨⟨fun ⟨y, hy⟩ => strip_of_parseText hf hy, ?_⟩, ?_⟩
  · intro h
    obtain ⟨a, b, ha, hb, rfl⟩ := (strip_eq_iff hn hb).mp h
    obtain ⟨ls, hy, -⟩ := parseText_of_around hf ha hb
    exact ⟨_, hy⟩
  · intro y hy
    obtain ⟨a, b, ha, hb', rfl⟩ := (strip_eq_iff hn hb).mp (strip_of_parseText hf hy)
    rw [takeWhile_isBlank_append ha hn hb]
    obtain ⟨ls, hy', h⟩ := parseText_of_around hf ha hb'
    exact ⟨ls, Except.ok.inj (hy.symm.trans hy'), h⟩

theorem parseText_arrow : ∃ p, Punctuation.declare 0 "Arrow" ['<', '=', '>'] {} "arrows" = .ok p ∧
    (∃ y, parseText ['\r', '\n', ' ', '<', '=', '>', ' '] (.type p) = .ok y) ∧
    ¬ ∃ y, parseText ['<', '=', ' ', '>'] (.type p) = .ok y := by
  have hn : isIdentifier "Arrow".toList = true := by cbv
  have hs : Symbol.strict ['<', '=', '>'] = .ok [⟨['<', '=']⟩, ⟨['>']⟩] := by cbv
  obtain ⟨p, hp, -⟩ := Punctuation.exists_declare hn hs 0 {} "arrows"
  refine ⟨p, hp, ?_, ?_⟩
  · exact (parseText_declared_iff_strip hp rfl _).1.mpr (by decide)
  · rw [(parseText_declared_iff_strip hp rfl _).1]
    decide

end Sigil
