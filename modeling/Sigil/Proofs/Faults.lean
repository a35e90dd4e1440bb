import Sigil.Proofs.Grammar

namespace Sigil

open Text Lexer

/-- What stands at a place where no lexeme begins, and why none does. -/
inductive IsFault : Text → LexicalFault → Prop
  | unknown {c : Char} (cs : Text) (hq : c ≠ '"') (hd : Lexeme.delimiter? c = none)
      (hp : isPunctuation c = false) (hw : isWordPart c = false) : IsFault (c :: cs) (.unknown 0 c)
  | letter {digits : Text} {c : Char} (cs : Text) (hn : digits ≠ [])
      (hd : ∀ x ∈ digits, x.isDigit = true) (hc : isWordStart c = true) :
      IsFault (digits ++ c :: cs) (.unknown digits.length c)
  | unclosed {cs : Text} (h : ∀ body rest, LiteralBody body → cs ≠ body ++ '"' :: rest) :
      IsFault ('"' :: cs) .unclosed
  | undecodable {body : Text} {e : Escape.Error} (rest : Text) (hb : LiteralBody body)
      (hv : Escape.unescape body = .error e) :
      IsFault ('"' :: (body ++ '"' :: rest)) (.undecodable e)
  | longInteger {digits rest : Text} (hd : ∀ x ∈ digits, x.isDigit = true)
      (hl : maxDigits < digits.length) (hr : ∀ x ∈ rest.head?, isWordPart x = false) :
      IsFault (digits ++ rest) (.longInteger digits.length)

/-- The token as it is when its line ends right behind it. -/
def Token.ended (t : Token) : Token := { t with trailing := true }

variable {source : Source} {place : Nat → Location} {row column : Nat} {ending : Location}
  {c : Char} {cs text : Text} {ls : List Text} {ts us : List Token} {e : Error}
  {fault : LexicalFault}

theorem exists_span (p : Char → Bool) (cs : Text) :
    ∃ head rest, cs = head ++ rest ∧ cs.takeWhile p = head ∧ cs.dropWhile p = rest ∧
      (∀ x ∈ head, p x = true) ∧ ∀ x ∈ rest.head?, p x = false := by
  refine ⟨_, _, List.takeWhile_append_dropWhile.symm, rfl, rfl, fun x => List.mem_takeWhile_imp, ?_⟩
  intro x hx
  have hd := List.head?_dropWhile_not p cs
  rw [Option.mem_def.mp hx] at hd
  simpa using hd

namespace Lexeme

theorem isFault_of_scanString (h : scanString cs = .error fault) : IsFault ('"' :: cs) fault := by
  unfold scanString at h
  split at h
  next hn =>
    obtain rfl := Except.error.inj h
    refine .unclosed fun body rest hb hcs => ?_
    rw [hcs, hb.quotedLength] at hn
    contradiction
  next n hn =>
    obtain ⟨body, rest, hb, rfl, rfl⟩ := exists_literalBody hn
    split at h
    next d hd =>
      obtain rfl := Except.error.inj h
      rw [Nat.add_sub_cancel, List.take_left] at hd
      exact .undecodable rest hb hd
    next => simp at h

theorem isFault_of_scanInteger (hc : c.isDigit = true) (h : scanInteger c cs = .error fault) :
    IsFault (c :: cs) fault := by
  obtain ⟨more, rest, rfl, hm, -, hw, hr⟩ := exists_span isWordPart cs
  obtain ⟨digits, tail, rfl, -, ht, hd, hn⟩ := exists_span Char.isDigit more
  have hdigits : ∀ x ∈ c :: digits, x.isDigit = true := List.forall_mem_cons.mpr ⟨hc, hd⟩
  simp only [scanInteger, hm, ht] at h
  cases tail with
  | nil =>
      rw [List.append_nil] at h ⊢
      dsimp only at h
      split at h
      next hl =>
        obtain rfl := Except.error.inj h
        exact .longInteger hdigits hl hr
      next => simp at h
  | cons letter after =>
      obtain rfl := Except.error.inj h
      have hl : isWordStart letter = true := by
        rcases isWordPart_iff.mp (hw letter (by simp)) with hl | hl
        · exact hl
        · simp [hn letter rfl] at hl
      have ho : (digits ++ letter :: after).length - after.length = (c :: digits).length := by
        simp only [List.length_append, List.length_cons]
        omega
      rw [ho, List.append_assoc]
      exact .letter (after ++ rest) (List.cons_ne_nil c digits) hdigits hl

theorem isFault_of_scan (h : scan c cs = .error fault) : IsFault (c :: cs) fault := by
  unfold scan at h
  split at h
  next hq =>
    rw [hq]
    exact isFault_of_scanString h
  next hq =>
    split at h
    next => simp at h
    next hd =>
      split at h
      next => simp at h
      next hp =>
        split at h
        next hc => exact isFault_of_scanInteger hc h
        next hc =>
          split at h
          next => simp at h
          next hw =>
            obtain rfl := Except.error.inj h
            have hw' : isWordPart c = false := by
              rw [Bool.eq_false_iff, Ne, isWordPart_iff]
              tauto
            exact .unknown cs hq hd (by simpa using hp) hw'

end Lexeme

namespace Lexer

/-- The tokens that are read off a line before the first place where no lexeme begins, and the error
there. -/
inductive Stops (place : Nat → Location) : Nat → Text → List Token → Error → Prop
  | fault {column : Nat} {c : Char} {cs : Text} {fault : LexicalFault} (hc : isBlank c = false)
      (hf : Lexeme.scan c cs = .error fault) :
      Stops place column (c :: cs) [] (error (place column) fault)
  | blank {column : Nat} {c : Char} {cs : Text} {ts : List Token} {e : Error}
      (hc : isBlank c = true) (h : Stops place (column + 1) cs ts e) :
      Stops place column (c :: cs) ts e
  | token {column : Nat} {c : Char} {l : Lexeme} {rest : Text} {ts : List Token} {e : Error}
      (hl : Lexeme.scan c (l.more ++ rest) = .ok l)
      (h : Stops place (column + 1 + l.more.length) rest ts e) :
      Stops place column (c :: (l.more ++ rest))
        (⟨l.kind, c :: l.more, l.value, place column, trailing rest⟩ :: ts) e

/-- The tokens that are read off lines from a row on before the first line that stops. -/
inductive StopsLines (source : Source) : Nat → List Text → List Token → Error → Prop
  | here {row : Nat} {l : Text} (ls : List Text) {ts : List Token} {e : Error}
      (h : Stops (.inSource source row) 0 (stripReturns l) ts e) :
      StopsLines source row (l :: ls) ts e
  | later {row : Nat} {l : Text} {ls : List Text} {ts us : List Token} {e : Error}
      (h : Reads (.inSource source row) 0 (stripReturns l) ts)
      (hs : StopsLines source (row + 1) ls us e) : StopsLines source row (l :: ls) (ts ++ us) e

theorem line_eq_error_iff : line place column cs = ⟨ts, some e⟩ ↔ Stops place column cs ts e := by
  constructor
  · intro h
    fun_induction line place column cs generalizing ts with
    | case1 column => simp at h
    | case2 column c cs hc ih => exact .blank hc (ih h)
    | case3 column c cs hc fault hf =>
        obtain ⟨rfl, he⟩ := Run.mk.inj h
        obtain rfl := Option.some.inj he
        exact .fault (by simpa using hc) hf
    | case4 column c cs hc l hl rest =>
        rename_i ih
        have hcs := List.prefix_iff_eq_append.mp (Lexeme.more_isPrefix_of_scan hl)
        obtain rfl : _ = ts := congrArg Run.tokens h
        rw [← hcs] at hl ⊢
        refine .token hl (ih ?_)
        rw [← show _ = some e from congrArg Run.error h]
        rfl
  · intro h
    induction h with
    | fault hc hf =>
        rw [line, if_neg (by simp [hc]), hf]
        rfl
    | blank hc _ ih => rw [line, if_pos hc, ih]
    | token hl _ ih =>
        rw [line, if_neg (by simp [Lexeme.isBlank_of_scan hl]), hl]
        simp [ih, Run.cons]

theorem lines_eq_error_iff :
    lines source row ending ls = ⟨ts, some e⟩ ↔ StopsLines source row ls ts e := by
  constructor
  · intro h
    induction ls generalizing row ending ts with
    | nil => simp [lines] at h
    | cons l ls ih =>
        rw [lines, Run.andThen] at h
        split at h
        next e' he =>
          obtain ⟨rfl, hs⟩ := Run.mk.inj h
          obtain rfl := Option.some.inj hs
          refine .here ls (line_eq_error_iff.mp ?_)
          rw [← he]
        next he =>
          generalize hr : lines source (row + 1) _ ls = r at h
          obtain ⟨us, error⟩ := r
          obtain rfl : _ = ts := congrArg Run.tokens h
          obtain rfl : error = some e := congrArg Run.error h
          refine .later (line_eq_iff.mp ?_) (ih hr)
          rw [← he]
  · intro h
    induction h generalizing ending with
    | here ls h => simp [lines, line_eq_error_iff.mpr h, Run.andThen]
    | later h hs ih => simp [lines, line_eq_iff.mpr h, ih, Run.andThen]

theorem tokenize_eq_error_iff : tokenize text = .error e ↔
    ∃ ts, StopsLines (.string none) 0 (inputLines text) ts e := by
  have hs (ts : List Token) : StopsLines (.string none) 0 (inputLines text) ts e ↔
      lines (.string none) 0 (.inSource (.string none) 0 0) (inputLines text) = ⟨ts, some e⟩ :=
    lines_eq_error_iff.symm
  simp only [hs, tokenize, lexText, lexLines, Run.toExcept]
  generalize lines _ _ _ _ = r
  obtain ⟨tokens, error⟩ := r
  cases error <;> simp

theorem trailing_append_blanks {bs : Text} (hb : ∀ c ∈ bs, isBlank c = true) (cs : Text) :
    trailing (cs ++ bs) = trailing cs := by
  cases cs with
  | nil =>
      cases bs with
      | nil => rfl
      | cons b bs => simpa [trailing] using hb b List.mem_cons_self
  | cons c cs => rfl

/-- Blanks at the end of a line make no difference. -/
theorem Reads.of_append_blanks {bs : Text} (hb : ∀ c ∈ bs, isBlank c = true)
    (h : Reads place column (cs ++ bs) ts) : Reads place column cs ts := by
  generalize ht : cs ++ bs = text at h
  induction h generalizing cs with
  | done column =>
      rw [(List.append_eq_nil_iff.mp ht).1]
      exact .done column
  | @blank column c text ts hc h ih =>
      cases cs with
      | nil =>
          subst ht
          rw [Reads.unique (.blank hc h) (.of_blanks hb)]
          exact .done column
      | cons d cs =>
          obtain ⟨rfl, htail⟩ := List.cons.inj ht
          exact .blank hc (ih htail)
  | @token column c l rest ts hl h ih =>
      cases cs with
      | nil =>
          subst ht
          have hc := hb c List.mem_cons_self
          simp [Lexeme.isBlank_of_scan hl] at hc
      | cons d cs =>
          obtain ⟨rfl, htail⟩ := List.cons.inj ht
          obtain ⟨a, rfl, rfl⟩ : ∃ a, cs = l.more ++ a ∧ rest = a ++ bs := by
            rcases List.append_eq_append_iff.mp htail with ⟨a, hm, rfl⟩ | h
            · -- A lexeme ends with no blank, so it does not reach into those.
              obtain rfl : a = [] := by
                by_contra hn
                have hx : a.getLast hn ∈ (d :: l.more).getLast? := by
                  rw [hm, ← List.cons_append]
                  exact List.mem_getLast?_append_of_mem_getLast? (List.getLast_mem_getLast? hn)
                have hblank := hb _ (List.mem_append_left rest (List.getLast_mem hn))
                simp [Lexeme.isBlank_of_getLast? hl _ hx] at hblank
              exact ⟨[], by rw [hm, List.append_nil, List.append_nil], rfl⟩
            · exact h
          rw [trailing_append_blanks hb]
          exact .token (Lexeme.scan_of_append hl) (ih rfl)

theorem Reads.modifyLast_ended (h : Reads place column cs ts) :
    ts.modifyLast Token.ended = ts := by
  cases ts using List.reverseRecOn with
  | nil => rfl
  | append_singleton us t =>
      have ht : t.trailing = true := h.trailing_getLast? t (by simp)
      rw [List.modifyLast_concat, Token.ended, ← ht]

/-- A line is read up to the place where no lexeme begins. -/
theorem Stops.exists_cut (h : Stops place column cs ts e) :
    ∃ before rest fault, cs = before ++ rest ∧ trailing rest = false ∧ IsFault rest fault ∧
      e = error (place (column + before.length)) fault ∧
      Reads place column before (ts.modifyLast Token.ended) := by
  induction h with
  | @fault column c cs fault hc hf =>
      exact ⟨[], _, _, rfl, hc, Lexeme.isFault_of_scan hf, rfl, .done column⟩
  | @blank column c cs ts e hc _ ih =>
      obtain ⟨before, rest, fault, rfl, ht, hf, rfl, hr⟩ := ih
      refine ⟨c :: before, rest, fault, rfl, ht, hf, ?_, .blank hc hr⟩
      rw [List.length_cons, Nat.add_assoc, Nat.add_comm 1]
  | @token column c l rest' ts e hl _ ih =>
      obtain ⟨before, rest, fault, rfl, ht, hf, rfl, hr⟩ := ih
      refine ⟨c :: (l.more ++ before), rest, fault, by simp, ht, hf, ?_, ?_⟩
      · simp only [List.length_cons, List.length_append]
        congr 2
        omega
      · have hread := Reads.token (Lexeme.scan_of_append hl) hr
        cases ts using List.reverseRecOn with
        | nil =>
            have hb : trailing before = true := by
              by_contra hb
              exact hr.ne_nil (Bool.not_eq_true _ ▸ hb) rfl
            rwa [hb] at hread
        | append_singleton us t =>
            rw [List.modifyLast_concat] at hr hread
            change Reads place column _ (List.modifyLast Token.ended ((_ :: us) ++ [t]))
            rw [List.modifyLast_concat]
            have hn : before ≠ [] := by
              rintro rfl
              simpa using hr.unique (.done _)
            obtain ⟨x, before, rfl⟩ := List.exists_cons_of_ne_nil hn
            exact hread

theorem StopsLines.exists_cut (h : StopsLines source row ls ts e) (ending : Location) :
    ∃ k l before rest fault last, ls[k]? = some l ∧ stripReturns l = before ++ rest ∧
      trailing rest = false ∧ IsFault rest fault ∧
      e = error (.inSource source (row + k) before.length) fault ∧
      ReadsLines source row ending (ls.take k ++ [before])
        (ts.modifyLast Token.ended ++ [.endOfInput last]) := by
  induction h generalizing ending with
  | @here row l ls ts e h =>
      obtain ⟨before, rest, fault, hl, ht, hf, rfl, hr⟩ := h.exists_cut
      obtain ⟨b, hb, hd⟩ := exists_stripReturns before
      have hstrip : Reads (.inSource source row) 0 (stripReturns before)
          (ts.modifyLast Token.ended) := by
        rw [hd] at hr
        exact hr.of_append_blanks fun c hc => isBlank_of_isLineEnd (hb c hc)
      refine ⟨0, l, before, rest, fault, _, rfl, hl, ht, hf, ?_, .line hstrip (.done _ _)⟩
      rw [Nat.zero_add]
      rfl
  | @later row l ls ts us e h hs ih =>
      obtain ⟨k, m, before, rest, fault, last, hk, hl, ht, hf, rfl, hr⟩ :=
        ih (.inSource source row (stripReturns l).length)
      refine ⟨k + 1, m, before, rest, fault, last, hk, hl, ht, hf, ?_, ?_⟩
      · rw [Nat.add_assoc, Nat.add_comm 1]
      · have hread : ReadsLines source row ending (l :: (ls.take k ++ [before]))
            (ts ++ (us.modifyLast Token.ended ++ [.endOfInput last])) := .line h hr
        by_cases hu : us = []
        · subst us
          rw [List.append_nil, h.modifyLast_ended]
          exact hread
        · rw [List.modifyLast_append_of_right_ne_nil _ _ _ hu, List.append_assoc]
          exact hread

theorem StopsLines.exists_fault (h : StopsLines source row ls ts e) :
    ∃ k l before rest fault, ls[k]? = some l ∧ stripReturns l = before ++ rest ∧
      IsFault rest fault ∧ e = error (.inSource source (row + k) before.length) fault := by
  obtain ⟨k, l, before, rest, fault, -, hk, hl, -, hf, he, -⟩ :=
    h.exists_cut (.inSource source 0 0)
  exact ⟨k, l, before, rest, fault, hk, hl, hf, he⟩

end Lexer

theorem IsFault.exists_cons (h : IsFault text fault) : ∃ c cs, text = c :: cs := by
  cases h with
  | unknown | unclosed | undecodable => exact ⟨_, _, rfl⟩
  | letter cs => exact List.exists_cons_of_ne_nil (by simp)
  | longInteger hd hl =>
      apply List.exists_cons_of_ne_nil
      rintro h
      rw [(List.append_eq_nil_iff.mp h).1] at hl
      exact Nat.not_lt_zero _ hl

/-- A text that cannot be read has a place where no lexeme begins, and the error is about this
place. -/
theorem exists_fault_of_tokenize (h : tokenize text = .error e) :
    ∃ row before rest fault, (inputLines text)[row]? = some (before ++ rest) ∧
      IsFault rest fault ∧
      e = Lexer.error (.inSource (.string none) row before.length) fault := by
  obtain ⟨ts, hs⟩ := tokenize_eq_error_iff.mp h
  obtain ⟨row, l, before, rest, fault, hrow, hl, hf, rfl⟩ := hs.exists_fault
  rw [stripReturns_of_mem_inputLines (List.mem_of_getElem? hrow)] at hl
  refine ⟨row, before, rest, fault, hl ▸ hrow, hf, ?_⟩
  rw [Nat.zero_add]

end Sigil
