import Sigil.Proofs.Escape

/-!
The body of a string literal is written in Latin-1 before its escapes are decoded. That makes no
difference but for one thing: behind a backslash that makes no escape with it, a character beyond
U+00FF is kept in its written form.
-/

namespace Sigil.Escape

open Text

/-- A character as it is written in Latin-1, where an escape has lost its backslash. -/
def written (c : Char) : Text := if c.toNat < 0x100 then [c] else (encodeChar c).tail

variable {c letter : Char} {cs rest text : Text} {points : List Nat}

theorem hexValue?_hexDigit {d : Nat} (hd : d < 16) : hexValue? (hexDigit d) = some d := by
  interval_cases d <;> rfl

theorem exists_hex (width n : Nat) : ∃ values, Digits hexValue? (hex width n) values ∧
    Nat.ofDigits 16 values.reverse = n % 16 ^ width := by
  induction width generalizing n with
  | zero => exact ⟨[], .nil, by rw [Nat.pow_zero, Nat.mod_one]; rfl⟩
  | succ width ih =>
      obtain ⟨values, hd, hv⟩ := ih (n / 16)
      refine ⟨values ++ [n % 16], ?_, ?_⟩
      · exact List.rel_append hd (.cons (hexValue?_hexDigit (Nat.mod_lt n (by decide))) .nil)
      · rw [List.reverse_append, List.reverse_singleton, List.singleton_append, Nat.ofDigits_cons,
          hv, Nat.pow_succ, Nat.mul_comm (16 ^ width), Nat.mod_mul]

theorem length_hex (width n : Nat) : (hex width n).length = width := by
  induction width generalizing n with
  | zero => rfl
  | succ width ih => rw [hex, List.length_append, ih]; rfl

/-- The written form of a character beyond Latin-1 is an escape for it. -/
theorem exists_encodeChar (hc : 0x100 ≤ c.toNat) :
    ∃ letter digits, encodeChar c = '\\' :: letter :: digits ∧ written c = letter :: digits ∧
      letter ≠ '\\' ∧ ∀ kept rest, IsEscape kept rest (letter :: digits) [c.toNat] := by
  have hmax : c.toNat ≤ 0x10ffff := by
    rcases c.valid with h | h
    · exact Nat.le_trans (Nat.le_of_lt h) (by decide)
    · exact Nat.le_of_lt_succ h.2
  have hescape {letter : Char} {width : Nat} (hw : hexWidth? letter = some width)
      (hlt : c.toNat < 16 ^ width) (kept : Char → Text) (rest : Text) :
      IsEscape kept rest (letter :: hex width c.toNat) [c.toNat] := by
    obtain ⟨values, hd, hv⟩ := exists_hex width c.toNat
    rw [Nat.mod_eq_of_lt hlt] at hv
    have h : IsEscape kept rest (letter :: hex width c.toNat) [Nat.ofDigits 16 values.reverse] :=
      .hex (by rwa [length_hex]) hd (hv ▸ hmax)
    rwa [hv] at h
  have hnarrow : ¬ c.toNat < 0x100 := Nat.not_lt.mpr hc
  by_cases hu : c.toNat < 0x10000
  · have he : encodeChar c = '\\' :: 'u' :: hex 4 c.toNat := by
      rw [encodeChar, if_neg hnarrow, if_pos hu]
    refine ⟨'u', hex 4 c.toNat, he, ?_, by decide, hescape rfl hu⟩
    rw [written, if_neg hnarrow, he]
    rfl
  · have he : encodeChar c = '\\' :: 'U' :: hex 8 c.toNat := by
      rw [encodeChar, if_neg hnarrow, if_neg hu]
    refine ⟨'U', hex 8 c.toNat, he, ?_, by decide, hescape rfl (by omega)⟩
    rw [written, if_neg hnarrow, he]
    rfl

theorem encodeChar_eq (hc : c.toNat < 0x100) : encodeChar c = [c] := if_pos hc

theorem written_eq (hc : c.toNat < 0x100) : written c = [c] := if_pos hc

theorem one_lt_length_written (hc : 0x100 ≤ c.toNat) : 1 < (written c).length := by
  rw [written, if_neg (Nat.not_lt.mpr hc), encodeChar, if_neg (Nat.not_lt.mpr hc)]
  split <;> simp [length_hex]

theorem encode_append {more : Text} (hm : ∀ c ∈ more, c.toNat < 0x100) (cs : Text) :
    encode (more ++ cs) = more ++ encode cs := by
  induction more with
  | nil => rfl
  | cons c more ih =>
      obtain ⟨hc, hm⟩ := List.forall_mem_cons.mp hm
      rw [List.cons_append, encode, List.flatMap_cons, encodeChar_eq hc]
      exact congrArg (c :: ·) (ih hm)

/-- What has no backslash in the written form was there before. -/
theorem exists_of_encode {more : Text} (hm : ∀ c ∈ more, c ≠ '\\') (h : encode cs = more ++ rest) :
    ∃ tail, cs = more ++ tail ∧ rest = encode tail := by
  induction more generalizing cs with
  | nil => exact ⟨cs, rfl, h.symm⟩
  | cons d more ih =>
      obtain ⟨hd, hmore⟩ := List.forall_mem_cons.mp hm
      cases cs with
      | nil => simp [encode] at h
      | cons c cs =>
          rw [encode, List.flatMap_cons] at h
          by_cases hc : c.toNat < 0x100
          · rw [encodeChar_eq hc] at h
            obtain ⟨rfl, htail⟩ := List.cons.inj h
            obtain ⟨tail, rfl, hr⟩ := ih hmore htail
            exact ⟨tail, rfl, hr⟩
          · obtain ⟨letter, digits, he, -⟩ := exists_encodeChar (Nat.le_of_not_lt hc)
            rw [he] at h
            exact absurd (List.cons.inj h).1.symm hd

theorem octalValue?_head_encode (cs : Text) :
    (∀ c ∈ (encode cs).head?, octalValue? c = none) ↔ ∀ c ∈ cs.head?, octalValue? c = none := by
  cases cs with
  | nil => rfl
  | cons c cs =>
      rw [encode, List.flatMap_cons]
      by_cases hc : c.toNat < 0x100
      · rw [encodeChar_eq hc]
        rfl
      · obtain ⟨letter, digits, he, -⟩ := exists_encodeChar (Nat.le_of_not_lt hc)
        rw [he]
        simp [(unknown_of_wide (Nat.le_of_not_lt hc)).octal, show octalValue? '\\' = none from rfl]

namespace Denotes

theorem encoded (h : Denotes written text points) : Denotes verbatim (encode text) points := by
  induction h with
  | nil => exact .nil
  | @plain c cs points hc _ ih =>
      rw [encode, List.flatMap_cons]
      by_cases hn : c.toNat < 0x100
      · rw [encodeChar_eq hn]
        exact .plain hc ih
      · obtain ⟨letter, digits, he, -, -, hi⟩ := exists_encodeChar (Nat.le_of_not_lt hn)
        rw [he]
        exact .escape (hi verbatim _) ih
  | @escape text rest points more he _ ih =>
      obtain ⟨letter, digits, rfl⟩ := he.exists_cons
      rw [encode, List.flatMap_cons, encodeChar_eq (by decide)]
      by_cases hn : letter.toNat < 0x100
      · have hall : ∀ c ∈ letter :: digits, c.toNat < 0x100 :=
          List.forall_mem_cons.mpr ⟨hn, fun c hc => (he.mem_more c hc).2⟩
        have hi : IsEscape verbatim (encode rest) (letter :: digits) points :=
          he.congr (octalValue?_head_encode rest).mpr (written_eq hn).symm
        have hd := Denotes.escape hi ih
        rwa [← encode_append hall] at hd
      · -- The backslash takes the one that the letter is written with.
        have hw := Nat.le_of_not_lt hn
        obtain ⟨rfl, rfl⟩ := he.eq_of_unknown (unknown_of_wide hw)
        obtain ⟨u, digits, hc, hletter, hu, hi⟩ := exists_encodeChar hw
        have hplain : ∀ c ∈ u :: digits, c ≠ '\\' :=
          List.forall_mem_cons.mpr ⟨hu, fun c hc => ((hi verbatim []).mem_more c hc).1⟩
        have hd := Denotes.escape (.simple rfl : IsEscape verbatim _ ['\\'] [0x5c])
          (ih.plains hplain)
        rw [hletter]
        simpa [hc, encode] using hd

theorem exists_of_encode_narrow (hl : letter.toNat < 0x100)
    (h : Denotes verbatim ('\\' :: letter :: encode cs) points) :
    ∃ (more tail : Text) (here there : List Nat), cs = more ++ tail ∧ points = here ++ there ∧
      IsEscape written tail (letter :: more) here ∧ Denotes verbatim (encode tail) there := by
  obtain ⟨letter, more, rest, here, there, hcs, rfl, he, hr⟩ := h.exists_escape
  obtain ⟨rfl, hmore⟩ := List.cons.inj hcs
  obtain ⟨tail, rfl, rfl⟩ := exists_of_encode (fun c hc => (he.mem_more c hc).1) hmore
  exact ⟨more, tail, here, there, rfl, rfl,
    he.congr (octalValue?_head_encode tail).mp (written_eq hl), hr⟩

theorem exists_of_encode_wide (hl : 0x100 ≤ letter.toNat)
    (h : Denotes verbatim ('\\' :: (encodeChar letter ++ encode cs)) points) :
    ∃ more, Denotes verbatim (encode cs) more ∧
      points = 0x5c :: (written letter).codePoints ++ more := by
  obtain ⟨u, digits, he, hw, hu, hi⟩ := exists_encodeChar hl
  have hplain : ∀ c ∈ u :: digits, c ≠ '\\' :=
    List.forall_mem_cons.mpr ⟨hu, fun c hc => ((hi verbatim []).mem_more c hc).1⟩
  rw [he, List.cons_append] at h
  obtain ⟨there, ht, rfl⟩ :=
    escape_inv (.simple rfl : IsEscape verbatim _ ['\\'] [0x5c]) h
  obtain ⟨more, hm, rfl⟩ := ht.plains_inv hplain
  exact ⟨more, hm, by rw [hw]; rfl⟩

theorem of_encoded (h : Denotes verbatim (encode text) points) :
    Denotes written text points := by
  induction hl : text.length using Nat.strong_induction_on generalizing text points with
  | _ n ih =>
      subst hl
      cases text with
      | nil =>
          cases h with
          | nil => exact .nil
      | cons c cs =>
          rw [encode, List.flatMap_cons] at h
          by_cases hc : c = '\\'
          · subst c
            rw [encodeChar_eq (by decide)] at h
            cases cs with
            | nil =>
                obtain ⟨letter, more, rest, here, there, hcs, -⟩ := h.exists_escape
                contradiction
            | cons letter cs =>
                rw [List.flatMap_cons] at h
                by_cases hn : letter.toNat < 0x100
                · rw [encodeChar_eq hn] at h
                  obtain ⟨more, tail, here, there, rfl, rfl, he, ht⟩ := exists_of_encode_narrow hn h
                  refine .escape he (ih tail.length ?_ ht rfl)
                  simp only [List.length_cons, List.length_append]
                  omega
                · have hw := Nat.le_of_not_lt hn
                  obtain ⟨more, hm, rfl⟩ := exists_of_encode_wide hw h
                  have he : IsEscape written cs [letter] (0x5c :: (written letter).codePoints) :=
                    .unknown (unknown_of_wide hw)
                  refine .escape he (ih cs.length ?_ hm rfl)
                  simp only [List.length_cons]
                  omega
          · by_cases hn : c.toNat < 0x100
            · rw [encodeChar_eq hn] at h
              obtain ⟨more, hm, rfl⟩ := h.plain_inv hc
              exact .plain hc (ih cs.length (Nat.lt_succ_self _) hm rfl)
            · obtain ⟨u, digits, he, -, -, hi⟩ := exists_encodeChar (Nat.le_of_not_lt hn)
              rw [he] at h
              obtain ⟨more, hm, rfl⟩ := escape_inv (hi verbatim _) h
              exact .plain hc (ih cs.length (Nat.lt_succ_self _) hm rfl)

/-- Whatever is kept, the same texts stand for something. What keeps a character beyond Latin-1 in
its written form gives more of it. -/
theorem exists_written (h : Denotes verbatim text points) :
    ∃ others, Denotes written text others ∧ points.length ≤ others.length ∧
      ∀ c ∈ taken text, 0x100 ≤ c.toNat → points.length < others.length := by
  induction h with
  | nil => exact ⟨[], .nil, Nat.le_refl _, by simp [taken]⟩
  | @plain c cs points hc _ ih =>
      obtain ⟨others, ho, hle, hlt⟩ := ih
      refine ⟨c.toNat :: others, .plain hc ho, Nat.succ_le_succ hle, ?_⟩
      rw [taken_plain hc]
      exact fun d hd hw => Nat.succ_lt_succ (hlt d hd hw)
  | @escape text rest here there he _ ih =>
      obtain ⟨others, ho, hle, hlt⟩ := ih
      obtain ⟨letter, more, rfl⟩ := he.exists_cons
      rw [taken_escape he]
      by_cases hn : letter.toNat < 0x100
      · refine ⟨here ++ others, .escape (he.congr id (written_eq hn)) ho, ?_, ?_⟩
        · simpa using hle
        · intro c hc hw
          rcases List.mem_cons.mp hc with rfl | hc
          · omega
          · simpa using hlt c hc hw
      · have hw := Nat.le_of_not_lt hn
        obtain ⟨rfl, rfl⟩ := he.eq_of_unknown (unknown_of_wide hw)
        have hl := one_lt_length_written hw
        refine ⟨_, .escape (.unknown (unknown_of_wide hw)) ho, ?_, fun c _ _ => ?_⟩ <;>
          simp only [List.cons_append, List.length_cons, List.length_append, codePoints,
            List.length_map, verbatim, List.length_nil] <;>
          omega

end Denotes

theorem unescape_ok_iff : unescape text = .ok points ↔ Denotes written text points :=
  decodeFrom_ok_iff.trans ⟨Denotes.of_encoded, Denotes.encoded⟩

theorem written_of_taken (hn : ∀ c ∈ taken text, c.toNat < 0x100) :
    ∀ c ∈ taken text, written c = verbatim c :=
  fun c hc => written_eq (hn c hc)

theorem unescape_of_denotes (hn : ∀ c ∈ taken text, c.toNat < 0x100)
    (h : Denotes verbatim text points) : unescape text = .ok points :=
  unescape_ok_iff.mpr (h.congr (written_of_taken hn))

/-- A body stands for what reading it character by character gives, and every character beyond
Latin-1 is part of that, as long as no backslash takes such a character. A backslash that takes one
leaves its written form instead. -/
theorem unescape_ok_iff_denotes (text : Text) :
    ((∀ c ∈ taken text, c.toNat < 0x100) → ∀ points,
      (unescape text = .ok points ↔ Denotes verbatim text points) ∧
      (unescape text = .ok points → ∀ c ∈ text, 0x100 ≤ c.toNat → c.toNat ∈ points)) ∧
    (∀ points, Denotes verbatim text points → unescape text = .ok points →
      ∀ c ∈ taken text, c.toNat < 0x100) ∧
    ∀ points, unescape text = .ok points ↔ Denotes written text points := by
  refine ⟨fun hn points => ?_, ?_, fun points => unescape_ok_iff⟩
  · have hd : unescape text = .ok points → Denotes verbatim text points := fun h =>
      (unescape_ok_iff.mp h).congr fun c hc => (written_of_taken hn c hc).symm
    exact ⟨⟨hd, unescape_of_denotes hn⟩, fun h c hc hw => (hd h).mem_of_wide hc hw⟩
  · intro points h hu c hc
    obtain ⟨others, ho, -, hlt⟩ := h.exists_written
    rw [unescape_ok_iff.mpr ho] at hu
    obtain rfl := Except.ok.inj hu
    by_contra hn
    exact Nat.lt_irrefl _ (hlt c hc (Nat.le_of_not_lt hn))

theorem unescape_of_kept_umlaut :
    (∀ c ∈ taken ['€', '\\', 'n', '\\', 'ü'], c.toNat < 0x100) ∧
      unescape ['€', '\\', 'n', '\\', 'ü'] = .ok [0x20ac, 0x0a, 0x5c, 0xfc] ∧
      Denotes verbatim ['€', '\\', 'n', '\\', 'ü'] [0x20ac, 0x0a, 0x5c, 0xfc] := by
  have hn : ∀ c ∈ taken ['€', '\\', 'n', '\\', 'ü'], c.toNat < 0x100 := by simp [taken]
  have hu : unescape ['€', '\\', 'n', '\\', 'ü'] = .ok [0x20ac, 0x0a, 0x5c, 0xfc] := by
    with_unfolding_all rfl
  exact ⟨hn, hu, ((unescape_ok_iff_denotes _).1 hn _).1.mp hu⟩

/-- The euro sign behind the backslash does not survive. -/
theorem not_denotes_of_unescape :
    Denotes verbatim ['\\', '€'] (codePoints ['\\', '€']) ∧
      unescape ['\\', '€'] = .ok (codePoints ['\\', 'u', '2', '0', 'a', 'c']) ∧
      '€'.toNat ∉ codePoints ['\\', 'u', '2', '0', 'a', 'c'] := by
  have he : IsEscape verbatim [] ['€'] (codePoints ['\\', '€']) :=
    .unknown (unknown_of_wide (by decide))
  refine ⟨.escape he .nil, ?_, by decide⟩
  with_unfolding_all rfl

end Sigil.Escape
