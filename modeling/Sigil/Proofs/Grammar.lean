import Sigil.Proofs.Lexer

namespace Sigil

open Text Lexer

/-- The body of a string literal. A backslash takes the next character with it, and a double quote
occurs only so. -/
inductive LiteralBody : Text → Prop
  | nil : LiteralBody []
  | plain {c : Char} {cs : Text} (hq : c ≠ '"') (hb : c ≠ '\\') (h : LiteralBody cs) :
      LiteralBody (c :: cs)
  | escape (c : Char) {cs : Text} (h : LiteralBody cs) : LiteralBody ('\\' :: c :: cs)

/-- The lexemes that may stand on a line in front of the given rest of it: kind, text and value. -/
inductive IsLexeme (rest : Text) : TokenKind → Text → Value → Prop
  | delimiter {c : Char} {k : TokenKind} (hc : Lexeme.delimiter? c = some k) :
      IsLexeme rest k [c] (.ofText [c])
  | punct {c : Char} (hc : isPunctuation c = true) : IsLexeme rest .punct [c] (.ofText [c])
  | identifier {c : Char} {more : Text} (hc : isWordStart c = true)
      (hm : ∀ x ∈ more, isWordPart x = true) (hr : ∀ x ∈ rest.head?, isWordPart x = false) :
      IsLexeme rest .identifier (c :: more) (.ofText (c :: more))
  | integer {digits : Text} (hn : digits ≠ []) (hl : digits.length ≤ maxDigits)
      (hd : ∀ x ∈ digits, x.isDigit = true) (hr : ∀ x ∈ rest.head?, isWordPart x = false) :
      IsLexeme rest .integer digits
        (.integer (Nat.ofDigits 10 (digits.map Lexeme.digitValue).reverse : Nat))
  | string {body : Text} {points : List Nat} (hb : LiteralBody body)
      (hv : Escape.unescape body = .ok points) :
      IsLexeme rest .string ('"' :: (body ++ ['"'])) (.text points)

/-- A line that consists of blanks and the given lexemes. -/
inductive Lexed : Text → List (TokenKind × Text × Value) → Prop
  | done : Lexed [] []
  | blank {c : Char} {cs : Text} {ws : List (TokenKind × Text × Value)} (hc : isBlank c = true)
      (h : Lexed cs ws) : Lexed (c :: cs) ws
  | lexeme {k : TokenKind} {text rest : Text} {value : Value} {ws : List (TokenKind × Text × Value)}
      (hl : IsLexeme rest k text value) (h : Lexed rest ws) :
      Lexed (text ++ rest) ((k, text, value) :: ws)

def Token.lexeme (t : Token) : TokenKind × Text × Value := (t.kind, t.text, t.value)

variable {source : Source} {place : Nat → Location} {row column : Nat} {ending : Location}
  {c : Char} {cs body more rest text : Text} {ls : List Text} {l : Lexeme} {k : TokenKind}
  {value : Value} {ts us : List Token} {ws : List (TokenKind × Text × Value)}

namespace Text

theorem ofDigits_eq (base : Nat) (digits : List Nat) :
    ofDigits base digits = Nat.ofDigits base digits.reverse := by
  rw [ofDigits, Nat.ofDigits_eq_foldr, List.foldr_reverse]
  congr 1
  funext n d
  rw [Nat.cast_id, Nat.mul_comm, Nat.add_comm]

theorem quotedLength_escape (c : Char) (cs : Text) :
    quotedLength (· = '"') false ('\\' :: c :: cs) =
      (quotedLength (· = '"') false cs).map (· + 2) := by
  have hq : ('\\' : Char) ≠ '"' := by decide
  simp [quotedLength, hq, Option.map_map, Function.comp_def]

theorem quotedLength_plain (hq : c ≠ '"') (hb : c ≠ '\\') (cs : Text) :
    quotedLength (· = '"') false (c :: cs) = (quotedLength (· = '"') false cs).map (· + 1) := by
  simp [quotedLength, hq, hb]

end Text

theorem LiteralBody.quotedLength (h : LiteralBody body) (rest : Text) :
    quotedLength (· = '"') false (body ++ '"' :: rest) = some (body.length + 1) := by
  induction h with
  | nil => rfl
  | plain hq hb _ ih => simp [quotedLength_plain hq hb, ih]
  | escape c _ ih => simp [quotedLength_escape, ih]

theorem exists_literalBody {n : Nat} (h : quotedLength (· = '"') false cs = some n) :
    ∃ body rest, LiteralBody body ∧ cs = body ++ '"' :: rest ∧ n = body.length + 1 := by
  induction hl : cs.length using Nat.strong_induction_on generalizing cs n with
  | _ m ih =>
      subst hl
      cases cs with
      | nil => simp [Text.quotedLength] at h
      | cons c cs =>
          by_cases hq : c = '"'
          · subst c
            obtain rfl : 1 = n := by simpa [Text.quotedLength] using h
            exact ⟨[], cs, .nil, rfl, rfl⟩
          · by_cases hb : c = '\\'
            · subst c
              cases cs with
              | nil => simp [Text.quotedLength] at h
              | cons c cs =>
                  rw [quotedLength_escape] at h
                  obtain ⟨m, hm, rfl⟩ := Option.map_eq_some_iff.mp h
                  obtain ⟨body, rest, hbody, rfl, rfl⟩ := ih cs.length (by simp) hm rfl
                  exact ⟨'\\' :: c :: body, rest, .escape c hbody, rfl, rfl⟩
            · rw [quotedLength_plain hq hb] at h
              obtain ⟨m, hm, rfl⟩ := Option.map_eq_some_iff.mp h
              obtain ⟨body, rest, hbody, rfl, rfl⟩ := ih cs.length (by simp) hm rfl
              exact ⟨c :: body, rest, .plain hq hb hbody, rfl, rfl⟩

namespace Lexeme

theorem scanString_ok_iff : scanString (more ++ rest) = .ok ⟨k, more, value⟩ ↔
    ∃ body points, LiteralBody body ∧ Escape.unescape body = .ok points ∧ more = body ++ ['"'] ∧
      k = .string ∧ value = .text points := by
  constructor
  · intro h
    obtain ⟨n, points, hn, hp, hl⟩ := scanString_ok h
    obtain ⟨body, rest', hb, hcs, rfl⟩ := exists_literalBody hn
    have htake : (more ++ rest).take (body.length + 1) = body ++ ['"'] := by
      rw [hcs, List.take_length_add_append]
      rfl
    rw [Nat.add_sub_cancel, hcs, List.take_left] at hp
    rw [htake] at hl
    obtain ⟨rfl, rfl, rfl⟩ := Lexeme.mk.inj hl
    exact ⟨body, points, hb, hp, rfl, rfl, rfl⟩
  · rintro ⟨body, points, hb, hp, rfl, rfl, rfl⟩
    have hcs : body ++ ['"'] ++ rest = body ++ '"' :: rest := by simp
    rw [scanString, hcs, hb.quotedLength]
    dsimp only
    rw [Nat.add_sub_cancel, List.take_left, hp, List.take_length_add_append]
    rfl

theorem isWordPart_apart (h : isWordPart c = true) :
    c ≠ '"' ∧ delimiter? c = none ∧ isPunctuation c = false := by
  have hc := toNat_of_isWordPart h
  refine ⟨?_, ?_, ?_⟩
  · rintro rfl
    simp at hc
  · cases hd : delimiter? c with
    | none => rfl
    | some k =>
        unfold delimiter? at hd
        split at hd
        case h_7 => simp at hd
        all_goals simp at hc
  · rw [Bool.eq_false_iff]
    intro hp
    have hw := (characters_apart c ((isPunctuation_iff c).mp hp)).2.1
    rw [h] at hw
    contradiction

theorem isDigit_of_isWordStart (h : isWordStart c = true) : c.isDigit = false := by
  rw [Bool.eq_false_iff]
  intro hd
  simp only [isWordStart, Char.isAlpha, Char.isUpper, Char.isLower, Char.isDigit,
    Bool.or_eq_true, Bool.and_eq_true, decide_eq_true_eq, ge_iff_le, UInt32.le_iff_toNat_le] at h hd
  rcases h with (h | h) | rfl
  · have := Nat.le_trans h.1 hd.2
    simp at this
  · have := Nat.le_trans h.1 hd.2
    simp at this
  · simp at hd

theorem scan_of_isDigit (h : c.isDigit = true) (cs : Text) : scan c cs = scanInteger c cs := by
  obtain ⟨hq, hd, hp⟩ := isWordPart_apart (isWordPart_of_isDigit h)
  simp [scan, hq, hd, hp, h]

theorem scan_of_isWordStart (h : isWordStart c = true) (cs : Text) :
    scan c cs = .ok (scanWord c cs) := by
  obtain ⟨hq, hd, hp⟩ := isWordPart_apart (isWordPart_of_isWordStart h)
  simp [scan, hq, hd, hp, isDigit_of_isWordStart h, h]

theorem scan_of_delimiter (h : delimiter? c = some k) (cs : Text) :
    scan c cs = .ok (single k c) := by
  have hq : c ≠ '"' := by
    rintro rfl
    simp [delimiter?] at h
  simp [scan, hq, h]

theorem scan_ok_iff :
    scan c (more ++ rest) = .ok ⟨k, more, value⟩ ↔ IsLexeme rest k (c :: more) value := by
  constructor
  · intro h
    rcases scan_cases h with ⟨rfl, h⟩ | ⟨k', hk, hl⟩ | ⟨hp, hl⟩ | ⟨hd, h⟩ | ⟨hw, hl⟩
    · obtain ⟨body, points, hb, hv, rfl, rfl, rfl⟩ := scanString_ok_iff.mp h
      exact .string hb hv
    · obtain ⟨rfl, rfl, rfl⟩ := Lexeme.mk.inj hl
      exact .delimiter hk
    · obtain ⟨rfl, rfl, rfl⟩ := Lexeme.mk.inj hl
      exact .punct hp
    · obtain ⟨hall, hlen, hl⟩ := scanInteger_ok_iff.mp h
      obtain ⟨rfl, hm, rfl⟩ := Lexeme.mk.inj hl
      rw [← hm] at hall hlen ⊢
      rw [ofDigits_eq]
      refine .integer (List.cons_ne_nil c more) hlen (List.forall_mem_cons.mpr ⟨hd, hall⟩) ?_
      exact ((takeWhile_append_eq_left _ _ _).mp hm.symm).2
    · obtain ⟨rfl, hm, rfl⟩ := Lexeme.mk.inj hl
      obtain ⟨hall, hr⟩ := (takeWhile_append_eq_left _ _ _).mp hm.symm
      rw [← hm]
      exact .identifier hw hall hr
  · intro h
    generalize ht : c :: more = text at h
    cases h with
    | delimiter hc =>
        obtain ⟨rfl, rfl⟩ := List.cons.inj ht
        exact scan_of_delimiter hc _
    | punct hc =>
        obtain ⟨rfl, rfl⟩ := List.cons.inj ht
        exact scan_of_isPunctuation hc _
    | identifier hc hm hr =>
        obtain ⟨rfl, rfl⟩ := List.cons.inj ht
        have hw := (takeWhile_append_eq_left _ _ _).mpr ⟨hm, hr⟩
        rw [scan_of_isWordStart hc, scanWord, hw]
    | integer hn hl hd hr =>
        subst ht
        obtain ⟨hc, hm⟩ := List.forall_mem_cons.mp hd
        have hw := (takeWhile_append_eq_left isWordPart more rest).mpr
          ⟨fun x hx => isWordPart_of_isDigit (hm x hx), hr⟩
        rw [scan_of_isDigit hc, scanInteger_ok_iff, hw, ofDigits_eq]
        exact ⟨hm, hl, rfl⟩
    | string hb hv =>
        obtain ⟨rfl, rfl⟩ := List.cons.inj ht
        exact scanString_ok_iff.mpr ⟨_, _, hb, hv, rfl, rfl, rfl⟩

end Lexeme

theorem IsLexeme.exists_cons (h : IsLexeme rest k text value) : ∃ c more, text = c :: more := by
  cases h with
  | delimiter | punct | identifier | string => exact ⟨_, _, rfl⟩
  | integer hn => exact List.exists_cons_of_ne_nil hn

namespace Lexer

theorem exists_reads (h : Lexed cs ws) (place : Nat → Location) (column : Nat) :
    ∃ ts, Reads place column cs ts ∧ ts.map Token.lexeme = ws := by
  induction h generalizing column with
  | done => exact ⟨[], .done column, rfl⟩
  | blank hc _ ih =>
      obtain ⟨ts, hr, hw⟩ := ih (column + 1)
      exact ⟨ts, .blank hc hr, hw⟩
  | @lexeme k text rest value ws hl _ ih =>
      obtain ⟨c, more, rfl⟩ := hl.exists_cons
      obtain ⟨ts, hr, hw⟩ := ih (column + 1 + more.length)
      refine ⟨_, .token (l := ⟨k, more, value⟩) (Lexeme.scan_ok_iff.mpr hl) hr, ?_⟩
      rw [List.map_cons, hw]
      rfl

theorem Reads.unique (h : Reads place column cs ts) (h' : Reads place column cs us) : ts = us := by
  have he := (line_eq_iff.mpr h).symm.trans (line_eq_iff.mpr h')
  exact congrArg Run.tokens he

end Lexer

/-- A line is taken apart in one way only. -/
theorem Lexed.unique {ws' : List (TokenKind × Text × Value)} (h : Lexed cs ws)
    (h' : Lexed cs ws') : ws = ws' := by
  obtain ⟨ts, hr, rfl⟩ := exists_reads h (.inSource (.string none) 0) 0
  obtain ⟨us, hr', rfl⟩ := exists_reads h' (.inSource (.string none) 0) 0
  rw [hr.unique hr']

variable {tokens : List Token} {each : List (List (TokenKind × Text × Value))}

theorem stripReturns_of_mem_inputLines {l : Text} (hl : l ∈ inputLines text) : stripReturns l = l :=
  stripReturns_eq_self fun c hc => (mem_inputLines hl c hc).2

end Sigil
