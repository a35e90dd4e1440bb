import Sigil.Proofs.WrittenForm

/-!
String literals. Every text is the value of one, in which backslashes and double quotes stand behind
a backslash; and a quote is passed over just where an odd run of backslashes comes before it.
-/

namespace Sigil.Literal

open Text Lexer Escape

def escapeChar (c : Char) : Text := if c = '\\' ∨ c = '"' then ['\\', c] else [c]

def escape (v : Text) : Text := v.flatMap escapeChar

/-- The literal that a text is the value of. -/
def ofText (v : Text) : Text := '"' :: (escape v ++ ['"'])

/-- How many backslashes a text ends with. -/
def backslashes (cs : Text) : Nat := (cs.reverse.takeWhile (· = '\\')).length

/-- There is a quote at an index, and the run of backslashes in front of it is even. -/
def closes (isQuote : Char → Bool) (before cs : Text) (i : Nat) : Bool :=
  cs[i]?.any isQuote && decide (Even (backslashes (before ++ cs.take i)))

variable {c : Char} {v : Text}

theorem escape_cons (c : Char) (v : Text) :
    escape (c :: v) = escapeChar c ++ escape v := List.flatMap_cons

theorem escapeChar_eq (hb : c ≠ '\\') (hq : c ≠ '"') : escapeChar c = [c] :=
  if_neg (not_or.mpr ⟨hb, hq⟩)

theorem literalBody_escape (v : Text) : LiteralBody (escape v) := by
  induction v with
  | nil => exact .nil
  | cons c v ih =>
      rw [escape_cons]
      by_cases hc : c = '\\' ∨ c = '"'
      · rw [escapeChar, if_pos hc]
        exact .escape c ih
      · obtain ⟨hb, hq⟩ := not_or.mp hc
        rw [escapeChar_eq hb hq]
        exact .plain hq hb ih

theorem denotes_escape (v : Text) : Denotes verbatim (escape v) v.codePoints := by
  induction v with
  | nil => exact .nil
  | cons c v ih =>
      rw [escape_cons]
      by_cases hb : c = '\\'
      · subst c
        exact .escape (.simple rfl : IsEscape verbatim _ ['\\'] [0x5c]) ih
      · by_cases hq : c = '"'
        · subst c
          exact .escape (.simple rfl : IsEscape verbatim _ ['"'] [0x22]) ih
        · rw [escapeChar_eq hb hq]
          exact .plain hb ih

theorem mem_taken_escape (h : c ∈ taken (escape v)) : c = '\\' ∨ c = '"' := by
  induction v with
  | nil => simp [escape, taken] at h
  | cons d v ih =>
      rw [escape_cons] at h
      by_cases hd : d = '\\' ∨ d = '"'
      · rw [escapeChar, if_pos hd] at h
        rcases List.mem_cons.mp h with rfl | h
        · exact hd
        · exact ih h
      · obtain ⟨hb, hq⟩ := not_or.mp hd
        rw [escapeChar_eq hb hq, List.singleton_append, taken_plain hb] at h
        exact ih h

theorem unescape_escape (v : Text) : unescape (escape v) = .ok v.codePoints := by
  refine unescape_of_denotes ?_ (denotes_escape v)
  intro c hc
  rcases mem_taken_escape hc with rfl | rfl <;> decide

theorem scan_escape (v : Text) :
    Lexeme.scan '"' (escape v ++ ['"']) = .ok ⟨.string, escape v ++ ['"'], .ofText v⟩ := by
  have h := Lexeme.scan_ok_iff.mpr (.string (literalBody_escape v) (unescape_escape v) :
    IsLexeme [] .string (ofText v) (.ofText v))
  rwa [List.append_nil] at h

theorem stripReturns_ofText (v : Text) : stripReturns (ofText v) = ofText v := by
  have hl : (('"' :: escape v) ++ ['"']).getLast? = some '"' := List.getLast?_concat
  apply dropTrailing_eq_self
  intro c hc
  obtain rfl := Option.some.inj (hl.symm.trans hc)
  rfl

/-- Whatever a text holds, its literal is one token that has it as its value, and nothing else is on
the line. -/
theorem lexLines_ofText (v : Text) :
    lexLines (.string none) [ofText v] =
      ⟨[⟨.string, ofText v, .ofText v, ⟨0, 0, .string none⟩, true⟩,
        .endOfInput ⟨0, (ofText v).length, .string none⟩], none⟩ := by
  have hr : Reads (.inSource (.string none) 0) 0 (ofText v)
      [⟨.string, ofText v, .ofText v, ⟨0, 0, .string none⟩, true⟩] :=
    Reads.single (l := ⟨.string, escape v ++ ['"'], .ofText v⟩) (scan_escape v) _ 0
  rw [← stripReturns_ofText v] at hr
  have hl : ReadsLines (.string none) 0 (.inSource (.string none) 0 0) [ofText v] _ :=
    .line hr (.done _ _)
  rw [stripReturns_ofText v] at hl
  exact lines_eq_iff.mpr hl

theorem backslashes_concat (cs : Text) (c : Char) :
    backslashes (cs ++ [c]) = if c = '\\' then backslashes cs + 1 else 0 := by
  rw [backslashes, List.reverse_concat, List.takeWhile_cons]
  by_cases hc : c = '\\'
  · simp [hc, backslashes]
  · simp [hc]

/-- The search remembers of the text before it only whether the run of backslashes at its end is
odd. -/
theorem odd_backslashes_concat (cs : Text) (c : Char) :
    decide (Odd (backslashes (cs ++ [c]))) = (c = '\\' && !decide (Odd (backslashes cs))) := by
  rw [backslashes_concat]
  by_cases hc : c = '\\'
  · simp only [hc, if_true, Nat.odd_add_one, decide_true, Bool.true_and, decide_not]
  · simp [hc]

/-- The search is one for the first quote in front of which the run of backslashes is even. -/
theorem quotedLength_eq_find? (isQuote : Char → Bool) (before cs : Text) :
    quotedLength isQuote (decide (Odd (backslashes before))) cs =
      ((List.range cs.length).find? (closes isQuote before cs)).map (· + 1) := by
  induction cs generalizing before with
  | nil => rfl
  | cons c cs ih =>
      have htail := ih (before ++ [c])
      rw [odd_backslashes_concat] at htail
      have hhead : closes isQuote before (c :: cs) 0 =
          (isQuote c && !decide (Odd (backslashes before))) := by
        simp [closes, ← Nat.not_odd_iff_even]
      have hsucc : closes isQuote before (c :: cs) ∘ Nat.succ = closes isQuote (before ++ [c]) cs := by
        funext i
        rw [Function.comp_apply, closes, closes, List.append_assoc]
        rfl
      rw [quotedLength, htail, List.length_cons, List.range_succ_eq_map, List.find?_cons, hhead,
        List.find?_map, hsucc]
      cases isQuote c && !decide (Odd (backslashes before)) with
      | true => rfl
      | false => simp [Function.comp_def]

end Sigil.Literal
