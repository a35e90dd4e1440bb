import Sigil.Lexer
import Sigil.Proofs.Characters

namespace Sigil.Lexeme

open Text Lexer

variable {c : Char} {cs more rest rest' : Text} {l : Lexeme}

theorem takeWhile_append_eq_left (p : Char → Bool) (more rest : Text) :
    (more ++ rest).takeWhile p = more ↔
      (∀ x ∈ more, p x = true) ∧ ∀ x ∈ rest.head?, p x = false := by
  induction more with
  | nil => cases rest <;> simp [List.takeWhile_cons]
  | cons x more ih =>
      rw [List.cons_append, List.takeWhile_cons]
      cases hx : p x with
      | false => simp [hx]
      | true => simp [hx, ih]

/-- What ends a run of word characters: the text may change behind it as long as the next character
is the same, or a blank, or missing. -/
theorem takeWhile_isWordPart_append (h : (more ++ rest).takeWhile isWordPart = more)
    (hr : rest'.head? = rest.head? ∨ trailing rest' = true) :
    (more ++ rest').takeWhile isWordPart = more := by
  rw [takeWhile_append_eq_left] at h ⊢
  refine ⟨h.1, ?_⟩
  rcases hr with hr | hr
  · rw [hr]
    exact h.2
  · intro x hx
    have hb : isBlank x = true := by simpa [trailing, Option.mem_def.mp hx] using hr
    cases hw : isWordPart x with
    | false => rfl
    | true => simp [isBlank_of_isWordPart hw] at hb

theorem quotedLength_append {q : Char → Bool} {escaped : Bool}
    (h : quotedLength q escaped (more ++ rest) = some more.length) :
    quotedLength q escaped (more ++ rest') = some more.length := by
  induction more generalizing escaped with
  | nil =>
      cases rest with
      | nil => simp [quotedLength] at h
      | cons c cs =>
          rw [List.nil_append, quotedLength] at h
          split at h <;> simp at h
  | cons c more ih =>
      rw [List.cons_append, quotedLength] at h ⊢
      split at h
      next hq => rw [if_pos hq, ← h]
      next hq =>
        rw [if_neg hq]
        have hm : quotedLength q (c = '\\' && !escaped) (more ++ rest) = some more.length := by
          simpa using h
        simp [ih hm]

theorem quotedLength_le {q : Char → Bool} {escaped : Bool} {n : Nat}
    (h : quotedLength q escaped cs = some n) : 0 < n ∧ n ≤ cs.length := by
  induction cs generalizing escaped n with
  | nil => simp [quotedLength] at h
  | cons c cs ih =>
      rw [quotedLength] at h
      split at h
      next => simp only [Option.some.injEq] at h; simp only [List.length_cons]; omega
      next =>
        obtain ⟨m, hm, rfl⟩ := Option.map_eq_some_iff.mp h
        have hl := (ih hm).2
        simp only [List.length_cons]
        omega

theorem getLast?_take_quotedLength {q : Char → Bool} {escaped : Bool} {n : Nat}
    (h : quotedLength q escaped cs = some n) : ∃ x, (cs.take n).getLast? = some x ∧ q x = true := by
  induction cs generalizing escaped n with
  | nil => simp [quotedLength] at h
  | cons c cs ih =>
      rw [quotedLength] at h
      split at h
      next hq =>
        obtain rfl := Option.some.inj h
        exact ⟨c, rfl, (Bool.and_eq_true_iff.mp hq).1⟩
      next =>
        obtain ⟨m, hm, rfl⟩ := Option.map_eq_some_iff.mp h
        obtain ⟨x, hx, hq⟩ := ih hm
        exact ⟨x, by simp [List.getLast?_cons, hx], hq⟩

theorem scanString_ok (h : scanString cs = .ok l) :
    ∃ n points, quotedLength (· = '"') false cs = some n ∧
      Escape.unescape (cs.take (n - 1)) = .ok points ∧ l = ⟨.string, cs.take n, .text points⟩ := by
  unfold scanString at h
  split at h
  next => simp at h
  next n hn =>
    split at h
    next => simp at h
    next points hp => exact ⟨n, points, hn, hp, (Except.ok.inj h).symm⟩

theorem scanInteger_ok_iff : scanInteger c cs = .ok l ↔
    (∀ x ∈ cs.takeWhile isWordPart, x.isDigit = true) ∧
      (cs.takeWhile isWordPart).length + 1 ≤ maxDigits ∧
      l = ⟨.integer, cs.takeWhile isWordPart,
        .integer (ofDigits 10 ((c :: cs.takeWhile isWordPart).map digitValue))⟩ := by
  unfold scanInteger
  generalize cs.takeWhile isWordPart = more
  dsimp only
  split
  next letter rest hd =>
    have hn : ¬ ∀ x ∈ more, x.isDigit = true := by
      rw [← List.dropWhile_eq_nil_iff, hd]
      exact List.cons_ne_nil letter rest
    simp [hn]
  next hd =>
    have hall : ∀ x ∈ more, x.isDigit = true := List.dropWhile_eq_nil_iff.mp hd
    split
    next hl =>
      constructor
      · simp
      · rintro ⟨-, hle, -⟩
        omega
    next hl =>
      constructor
      · intro h
        exact ⟨hall, by omega, (Except.ok.inj h).symm⟩
      · rintro ⟨-, -, rfl⟩
        rfl

theorem scanInteger_ok (h : scanInteger c cs = .ok l) :
    l.kind = .integer ∧ l.more = cs.takeWhile isWordPart := by
  obtain ⟨-, -, rfl⟩ := scanInteger_ok_iff.mp h
  exact ⟨rfl, rfl⟩

theorem scanInteger_congr (h : cs.takeWhile isWordPart = rest.takeWhile isWordPart) :
    scanInteger c cs = scanInteger c rest := by
  simp only [scanInteger, h]

theorem scanWord_congr (h : cs.takeWhile isWordPart = rest.takeWhile isWordPart) :
    scanWord c cs = scanWord c rest := by
  simp only [scanWord, h]

theorem scan_of_isPunctuation (h : isPunctuation c = true) (cs : Text) :
    scan c cs = .ok (single .punct c) := by
  obtain ⟨-, -, hq, hd, -⟩ := characters_apart c ((isPunctuation_iff c).mp h)
  simp [scan, hq, hd, h]

theorem kind_of_delimiter {k : TokenKind} (h : delimiter? c = some k) :
    k ∈ [TokenKind.lbracket, .rbracket, .lparen, .rparen, .lcurly, .rcurly] := by
  unfold delimiter? at h
  split at h <;> simp_all

theorem scan_cases (h : scan c cs = .ok l) :
    c = '"' ∧ scanString cs = .ok l ∨
      (∃ k, delimiter? c = some k ∧ l = single k c) ∨
      isPunctuation c = true ∧ l = single .punct c ∨
      c.isDigit = true ∧ scanInteger c cs = .ok l ∨
      isWordStart c = true ∧ l = scanWord c cs := by
  unfold scan at h
  split at h
  next hq => exact .inl ⟨hq, h⟩
  next =>
    split at h
    next k hk => exact .inr (.inl ⟨k, hk, (Except.ok.inj h).symm⟩)
    next =>
      split at h
      next hp => exact .inr (.inr (.inl ⟨hp, (Except.ok.inj h).symm⟩))
      next =>
        split at h
        next hd => exact .inr (.inr (.inr (.inl ⟨hd, h⟩)))
        next =>
          split at h
          next hw => exact .inr (.inr (.inr (.inr ⟨hw, (Except.ok.inj h).symm⟩)))
          next => simp at h

theorem isBlank_of_scan (h : scan c cs = .ok l) : isBlank c = false := by
  rcases scan_cases h with ⟨rfl, -⟩ | ⟨k, hk, -⟩ | ⟨hp, -⟩ | ⟨hd, -⟩ | ⟨hw, -⟩
  · rfl
  · exact isBlank_of_delimiter hk
  · exact isBlank_of_isPunctuation hp
  · exact isBlank_of_isWordPart (isWordPart_of_isDigit hd)
  · exact isBlank_of_isWordPart (isWordPart_of_isWordStart hw)

theorem kind_of_scan (h : scan c cs = .ok l) :
    l.kind ≠ .eof ∧ (l.kind = .punct ↔ isPunctuation c = true) := by
  cases hp : isPunctuation c with
  | true =>
      rw [scan_of_isPunctuation hp] at h
      rw [← Except.ok.inj h]
      simp [single]
  | false =>
      rcases scan_cases h with ⟨-, h⟩ | ⟨k, hk, rfl⟩ | ⟨hc, -⟩ | ⟨-, h⟩ | ⟨-, rfl⟩
      · obtain ⟨n, points, -, -, rfl⟩ := scanString_ok h
        simp
      · have hm := kind_of_delimiter hk
        constructor
        · rintro rfl
          simp at hm
        · simp only [single]
          constructor
          · rintro rfl
            simp at hm
          · simp
      · simp [hp] at hc
      · simp [(scanInteger_ok h).1]
      · simp [scanWord]

theorem more_isPrefix_of_scan (h : scan c cs = .ok l) : l.more <+: cs := by
  rcases scan_cases h with ⟨-, h⟩ | ⟨k, -, rfl⟩ | ⟨-, rfl⟩ | ⟨-, h⟩ | ⟨-, rfl⟩
  · obtain ⟨n, points, -, -, rfl⟩ := scanString_ok h
    exact List.take_prefix n cs
  · exact List.nil_prefix
  · exact List.nil_prefix
  · rw [(scanInteger_ok h).2]
    exact List.takeWhile_prefix _
  · exact List.takeWhile_prefix _

theorem isBlank_of_getLast? (h : scan c cs = .ok l) :
    ∀ x ∈ (c :: l.more).getLast?, isBlank x = false := by
  have hword (hc : isWordPart c = true) (hm : l.more = cs.takeWhile isWordPart) :
      ∀ x ∈ (c :: l.more).getLast?, isBlank x = false := by
    intro x hx
    rcases List.mem_cons.mp (List.mem_of_getLast? hx) with rfl | hx
    · exact isBlank_of_isWordPart hc
    · exact isBlank_of_isWordPart (List.mem_takeWhile_imp (hm ▸ hx))
  have hc := isBlank_of_scan h
  rcases scan_cases h with ⟨rfl, h⟩ | ⟨k, -, rfl⟩ | ⟨-, rfl⟩ | ⟨hd, h⟩ | ⟨hw, rfl⟩
  · obtain ⟨n, points, hn, -, rfl⟩ := scanString_ok h
    obtain ⟨y, hy, hq⟩ := getLast?_take_quotedLength hn
    intro x hx
    have hxy : x = y := by simpa [List.getLast?_cons, hy, eq_comm] using hx
    rw [hxy, of_decide_eq_true hq]
    rfl
  · simpa [single] using hc
  · simpa [single] using hc
  · exact hword (isWordPart_of_isDigit hd) (scanInteger_ok h).2
  · exact hword (isWordPart_of_isWordStart hw) rfl

theorem scanString_append (h : scanString (l.more ++ rest) = .ok l) :
    scanString (l.more ++ rest') = .ok l := by
  obtain ⟨n, points, hn, hp, hl⟩ := scanString_ok h
  have hm : l.more = (l.more ++ rest).take n := congrArg Lexeme.more hl
  have hlen : l.more.length = n := by
    rw [hm, List.length_take]
    exact Nat.min_eq_left (quotedLength_le hn).2
  have htake (m : Nat) (hm : m ≤ n) : (l.more ++ rest').take m = (l.more ++ rest).take m := by
    rw [List.take_append_of_le_length (by omega), List.take_append_of_le_length (by omega)]
  have hn' : quotedLength (· = '"') false (l.more ++ rest') = some n := by
    rw [← hlen] at hn ⊢
    exact quotedLength_append hn
  simp only [scanString, hn', htake (n - 1) (by omega), hp, htake n (Nat.le_refl n)]
  exact congrArg Except.ok hl.symm

/-- A lexeme is read off its own characters and a look at what follows: the text behind it may
change as long as the next character is the same, or a blank, or missing. -/
theorem scan_append (h : scan c (l.more ++ rest) = .ok l)
    (hr : rest'.head? = rest.head? ∨ trailing rest' = true) :
    scan c (l.more ++ rest') = .ok l := by
  -- Only integers and words look at what follows them.
  have hword (hm : l.more = (l.more ++ rest).takeWhile isWordPart) :
      (l.more ++ rest).takeWhile isWordPart = (l.more ++ rest').takeWhile isWordPart := by
    rw [takeWhile_isWordPart_append hm.symm hr, ← hm]
  unfold scan at h ⊢
  split at h
  next hq =>
    rw [if_pos hq]
    exact scanString_append h
  next hq =>
    rw [if_neg hq]
    split at h
    next k hk => exact h
    next hd =>
      split at h
      next hp =>
        rw [if_pos hp]
        exact h
      next hp =>
        rw [if_neg hp]
        split at h
        next hc =>
          rw [if_pos hc, ← scanInteger_congr (hword (scanInteger_ok h).2)]
          exact h
        next hc =>
          rw [if_neg hc]
          split at h
          next hw =>
            have hl : scanWord c (l.more ++ rest) = l := Except.ok.inj h
            rw [if_pos hw, ← scanWord_congr (hword (congrArg Lexeme.more hl).symm)]
            exact h
          next hw => simp at h

theorem scan_of_append (h : scan c (l.more ++ (rest ++ rest')) = .ok l) :
    scan c (l.more ++ rest) = .ok l := by
  refine scan_append h ?_
  cases rest with
  | nil => exact .inr rfl
  | cons x rest => exact .inl rfl

end Sigil.Lexeme
