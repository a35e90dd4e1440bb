import Sigil.Proofs.Grammar

/-!
What the body of a string literal stands for, as a grammar of escapes. Decoding a text gives just
what the grammar says.
-/

namespace Sigil.Escape

open Text

/-- The characters are digits with these values. -/
def Digits (value? : Char → Option Nat) : Text → List Nat → Prop :=
  List.Forall₂ fun c d => value? c = some d

/-- A letter that makes no escape with the backslash before it. -/
structure Unknown (letter : Char) : Prop where
  simple : simple? letter = none
  hex : hexWidth? letter = none
  octal : octalValue? letter = none
  name : letter ≠ 'N'

/-- What may stand behind a backslash and in front of the given rest of a text, and the code points
that it stands for with the backslash. An unknown letter stays behind the backslash as `kept` has
it. Nothing may stand behind `N`, since no character has a name here. -/
inductive IsEscape (kept : Char → Text) (rest : Text) : Text → List Nat → Prop
  | simple {letter : Char} {points : List Nat} (hl : simple? letter = some points) :
      IsEscape kept rest [letter] points
  | hex {letter : Char} {digits : Text} {values : List Nat}
      (hl : hexWidth? letter = some digits.length) (hd : Digits hexValue? digits values)
      (hv : Nat.ofDigits 16 values.reverse ≤ 0x10ffff) :
      IsEscape kept rest (letter :: digits) [Nat.ofDigits 16 values.reverse]
  | octal {digits : Text} {values : List Nat} (hn : digits ≠ [])
      (hd : Digits octalValue? digits values) (hl : digits.length ≤ 3)
      (hr : digits.length = 3 ∨ ∀ c ∈ rest.head?, octalValue? c = none) :
      IsEscape kept rest digits [Nat.ofDigits 8 values.reverse]
  | unknown {letter : Char} (hl : Unknown letter) :
      IsEscape kept rest [letter] (0x5c :: (kept letter).codePoints)

/-- The code points that a text stands for, read from left to right: escapes are decoded, and all
other characters stand for themselves. -/
inductive Denotes (kept : Char → Text) : Text → List Nat → Prop
  | nil : Denotes kept [] []
  | plain {c : Char} {cs : Text} {points : List Nat} (hc : c ≠ '\\') (h : Denotes kept cs points) :
      Denotes kept (c :: cs) (c.toNat :: points)
  | escape {text rest : Text} {points more : List Nat} (he : IsEscape kept rest text points)
      (h : Denotes kept rest more) : Denotes kept ('\\' :: (text ++ rest)) (points ++ more)

def verbatim (c : Char) : Text := [c]

/-- The characters that the backslashes of a text take with them. -/
def taken : Text → Text
  | '\\' :: c :: cs => c :: taken cs
  | _ :: cs => taken cs
  | [] => []

variable {value? : Char → Option Nat} {kept kept' : Char → Text} {place used limit : Nat}
  {c letter : Char} {cs digits rest text : Text} {values points : List Nat}

theorem exists_leadingDigits (value? : Char → Option Nat) (limit : Nat) (cs : Text) :
    ∃ digits rest, cs = digits ++ rest ∧ Digits value? digits (leadingDigits value? limit cs) ∧
      digits.length ≤ limit ∧
      (digits.length = limit ∨ ∀ c ∈ rest.head?, value? c = none) := by
  fun_induction leadingDigits value? limit cs with
  | case1 cs => exact ⟨[], cs, rfl, .nil, Nat.le_refl 0, .inl rfl⟩
  | case2 limit => exact ⟨[], [], rfl, .nil, Nat.zero_le _, .inr (by simp)⟩
  | case3 limit c cs hc =>
      exact ⟨[], c :: cs, rfl, .nil, Nat.zero_le _, .inr (by simpa using hc)⟩
  | case4 limit c cs d hc ih =>
      obtain ⟨digits, rest, rfl, hd, hl, hr⟩ := ih
      exact ⟨c :: digits, rest, rfl, .cons hc hd, Nat.succ_le_succ hl, hr.imp_left (congrArg _)⟩

theorem leadingDigits_eq (hd : Digits value? digits values) (hl : digits.length ≤ limit)
    (hr : digits.length = limit ∨ ∀ c ∈ rest.head?, value? c = none) :
    leadingDigits value? limit (digits ++ rest) = values := by
  induction hd generalizing limit with
  | nil =>
      cases limit with
      | zero => rfl
      | succ limit =>
          cases rest with
          | nil => rfl
          | cons c rest =>
              have hc : value? c = none := by simpa using hr
              simp [leadingDigits, hc]
  | @cons c d digits values hc _ ih =>
      cases limit with
      | zero => simp at hl
      | succ limit =>
          have h := ih (Nat.le_of_succ_le_succ hl) (hr.imp_left fun h => Nat.succ_injective h)
          simp [leadingDigits, hc, h]

theorem toNat_of_hexValue? {d : Nat} (h : hexValue? c = some d) :
    48 ≤ c.toNat ∧ c.toNat ≤ 57 ∨ 97 ≤ c.toNat ∧ c.toNat ≤ 102 ∨
      65 ≤ c.toNat ∧ c.toNat ≤ 70 := by
  simp only [hexValue?, Char.le_def, UInt32.le_iff_toNat_le] at h
  split_ifs at h with h₀ h₁ h₂
  · exact .inl h₀
  · exact .inr (.inl h₁)
  · exact .inr (.inr h₂)

theorem toNat_of_octalValue? {d : Nat} (h : octalValue? c = some d) :
    48 ≤ c.toNat ∧ c.toNat ≤ 55 := by
  simp only [octalValue?, Char.le_def, UInt32.le_iff_toNat_le] at h
  split_ifs at h with h₀
  exact h₀

theorem toNat_of_simple? (h : simple? c = some points) :
    c.toNat < 0x80 ∧ (c.toNat < 48 ∨ 55 < c.toNat) ∧ hexWidth? c = none := by
  unfold simple? at h
  split at h
  case h_12 => simp at h
  all_goals decide

theorem toNat_of_hexWidth? {width : Nat} (h : hexWidth? c = some width) :
    55 < c.toNat ∧ c.toNat < 0x80 := by
  unfold hexWidth? at h
  split at h
  case h_4 => simp at h
  all_goals decide

theorem simple?_of_hexWidth? {width : Nat} (h : hexWidth? c = some width) : simple? c = none := by
  cases hs : simple? c with
  | none => rfl
  | some points =>
      rw [(toNat_of_simple? hs).2.2] at h
      contradiction

theorem letter_of_octalValue? {d : Nat} (h : octalValue? c = some d) :
    simple? c = none ∧ hexWidth? c = none := by
  have hc := toNat_of_octalValue? h
  constructor
  · cases hs : simple? c with
    | none => rfl
    | some points =>
        have hn := (toNat_of_simple? hs).2.1
        omega
  · cases hw : hexWidth? c with
    | none => rfl
    | some width =>
        have hn := toNat_of_hexWidth? hw
        omega

theorem exists_isEscape (h : decodeEscape place letter cs = .ok (points, used)) :
    ∃ more rest, cs = more ++ rest ∧ used = more.length ∧
      IsEscape verbatim rest (letter :: more) points := by
  unfold decodeEscape at h
  cases hs : simple? letter with
  | some ps =>
      simp only [hs] at h
      obtain ⟨rfl, rfl⟩ := Prod.mk.inj (Except.ok.inj h)
      exact ⟨[], cs, rfl, rfl, .simple hs⟩
  | none =>
      cases hw : hexWidth? letter with
      | some width =>
          obtain ⟨digits, rest, rfl, hd, hl, -⟩ := exists_leadingDigits hexValue? width cs
          simp only [hs, hw] at h
          split_ifs at h with hlen hbig
          obtain ⟨rfl, rfl⟩ := Prod.mk.inj (Except.ok.inj h)
          obtain rfl : digits.length = width := by
            rw [← hd.length_eq] at hlen
            omega
          rw [ofDigits_eq] at hbig ⊢
          exact ⟨digits, rest, rfl, rfl, .hex hw hd (Nat.le_of_not_lt hbig)⟩
      | none =>
          cases ho : octalValue? letter with
          | some d =>
              obtain ⟨digits, rest, rfl, hd, hl, hr⟩ := exists_leadingDigits octalValue? 2 cs
              simp only [hs, hw, ho] at h
              obtain ⟨rfl, rfl⟩ := Prod.mk.inj (Except.ok.inj h)
              rw [ofDigits_eq]
              exact ⟨digits, rest, rfl, hd.length_eq.symm,
                .octal (List.cons_ne_nil _ _) (.cons ho hd) (Nat.succ_le_succ hl)
                  (hr.imp_left (congrArg (· + 1)))⟩
          | none =>
              simp only [hs, hw, ho] at h
              split at h
              next =>
                -- No character has a name.
                split at h
                next => split_ifs at h
                next => contradiction
              next hn =>
                obtain ⟨rfl, rfl⟩ := Prod.mk.inj (Except.ok.inj h)
                exact ⟨[], cs, rfl, rfl, .unknown ⟨hs, hw, ho, hn⟩⟩

theorem decodeEscape_of_isEscape {more : Text} (place : Nat)
    (h : IsEscape verbatim rest (letter :: more) points) :
    decodeEscape place letter (more ++ rest) = .ok (points, more.length) := by
  generalize ht : letter :: more = text at h
  cases h with
  | simple hs =>
      obtain ⟨rfl, rfl⟩ := List.cons.inj ht
      simp [decodeEscape, hs]
  | @hex _ digits values hw hd hv =>
      obtain ⟨rfl, rfl⟩ := List.cons.inj ht
      have hl : leadingDigits hexValue? more.length (more ++ rest) = values :=
        leadingDigits_eq hd (Nat.le_refl _) (.inl rfl)
      simp only [decodeEscape, simple?_of_hexWidth? hw, hw, hl, ofDigits_eq]
      rw [if_neg (by rw [hd.length_eq]; exact Nat.lt_irrefl _), if_neg (Nat.not_lt.mpr hv)]
  | octal hn hd hl hr =>
      subst ht
      cases hd with
      | @cons _ d _ values ho hd =>
          obtain ⟨hs, hw⟩ := letter_of_octalValue? ho
          have hv : leadingDigits octalValue? 2 (more ++ rest) = values :=
            leadingDigits_eq hd (Nat.le_of_succ_le_succ hl)
              (hr.imp_left fun h => Nat.succ_injective h)
          simp only [decodeEscape, hs, hw, ho, hv, ofDigits_eq, hd.length_eq]
  | unknown hl =>
      obtain ⟨rfl, rfl⟩ := List.cons.inj ht
      simp [decodeEscape, hl.simple, hl.hex, hl.octal, hl.name, verbatim, codePoints]

theorem IsEscape.exists_cons (h : IsEscape kept rest text points) :
    ∃ letter more, text = letter :: more := by
  cases h with
  | simple | hex | unknown => exact ⟨_, _, rfl⟩
  | octal hn => exact List.exists_cons_of_ne_nil hn

theorem decodeFrom_plain (hc : c ≠ '\\') (place : Nat) (cs : Text) :
    decodeFrom place (c :: cs) = (decodeFrom (place + 1) cs).map (c.toNat :: ·) := by
  rw [decodeFrom.eq_4]
  · simp [hc]
  · simp [hc]

theorem decodeFrom_escape (place : Nat) (h : IsEscape verbatim rest text points) :
    decodeFrom place ('\\' :: (text ++ rest)) =
      (decodeFrom (place + 1 + text.length) rest).map (points ++ ·) := by
  obtain ⟨letter, more, rfl⟩ := h.exists_cons
  have hp : place + 2 + more.length = place + 1 + (letter :: more).length := by
    rw [List.length_cons]
    omega
  rw [List.cons_append, decodeFrom, decodeEscape_of_isEscape place h]
  dsimp only
  rw [List.drop_left, hp]

theorem map_eq_ok_iff {α β ε : Type} {f : α → β} {x : Except ε α} {b : β} :
    x.map f = .ok b ↔ ∃ a, x = .ok a ∧ f a = b := by
  cases x <;> simp [Except.map]

theorem decodeFrom_ok_iff : decodeFrom place text = .ok points ↔ Denotes verbatim text points := by
  constructor
  · intro h
    fun_induction decodeFrom place text generalizing points with
    | case1 =>
        obtain rfl := Except.ok.inj h
        exact .nil
    | case2 => contradiction
    | case3 => contradiction
    | case4 place letter cs here used he ih =>
        obtain ⟨more, hm, rfl⟩ := map_eq_ok_iff.mp h
        obtain ⟨digits, rest, rfl, rfl, hi⟩ := exists_isEscape he
        rw [List.drop_left] at hm ih
        exact .escape hi (ih hm)
    | case5 place c cs hlone hesc ih =>
        obtain ⟨more, hm, rfl⟩ := map_eq_ok_iff.mp h
        refine .plain ?_ (ih hm)
        rintro rfl
        cases cs with
        | nil => exact hlone rfl rfl
        | cons d cs => exact hesc d cs rfl rfl
  · intro h
    induction h generalizing place with
    | nil => rw [decodeFrom]
    | plain hc _ ih => rw [decodeFrom_plain hc, ih]; rfl
    | escape he _ ih => rw [decodeFrom_escape place he, ih]; rfl

theorem Digits.exists_value (hd : Digits value? digits values) (hc : c ∈ digits) :
    ∃ d, value? c = some d := by
  induction hd with
  | nil => simp at hc
  | cons hv _ ih =>
      rcases List.mem_cons.mp hc with rfl | hc
      · exact ⟨_, hv⟩
      · exact ih hc

/-- Behind the letter an escape has only digits. -/
theorem IsEscape.mem_more {more : Text} (h : IsEscape kept rest (letter :: more) points) :
    ∀ c ∈ more, c ≠ '\\' ∧ c.toNat < 0x100 := by
  have hn {c : Char} (h : c.toNat < 0x100 ∧ c.toNat ≠ 0x5c) : c ≠ '\\' ∧ c.toNat < 0x100 := by
    refine ⟨?_, h.1⟩
    rintro rfl
    exact h.2 rfl
  cases h with
  | simple | unknown => simp
  | hex _ hd =>
      intro c hc
      obtain ⟨d, hv⟩ := hd.exists_value hc
      have hr := toNat_of_hexValue? hv
      exact hn (by omega)
  | octal _ hd =>
      intro c hc
      obtain ⟨d, hv⟩ := hd.exists_value (List.mem_cons_of_mem _ hc)
      have hr := toNat_of_octalValue? hv
      exact hn (by omega)

theorem IsEscape.congr {more rest' : Text} (h : IsEscape kept rest (letter :: more) points)
    (hr : (∀ c ∈ rest.head?, octalValue? c = none) → ∀ c ∈ rest'.head?, octalValue? c = none)
    (hk : kept' letter = kept letter) : IsEscape kept' rest' (letter :: more) points := by
  cases h with
  | simple hl => exact .simple hl
  | hex hl hd hv => exact .hex hl hd hv
  | octal hn hd hl hm => exact .octal hn hd hl (hm.imp_right hr)
  | unknown hl =>
      rw [← hk]
      exact .unknown hl

theorem unknown_of_wide (hc : 0x100 ≤ c.toNat) : Unknown c where
  simple := by
    cases h : simple? c with
    | none => rfl
    | some points => have hr := toNat_of_simple? h; omega
  hex := by
    cases h : hexWidth? c with
    | none => rfl
    | some width => have hr := toNat_of_hexWidth? h; omega
  octal := by
    cases h : octalValue? c with
    | none => rfl
    | some d => have hr := toNat_of_octalValue? h; omega
  name := by
    rintro rfl
    contradiction

theorem IsEscape.eq_of_unknown {more : Text} (h : IsEscape kept rest (letter :: more) points)
    (hl : Unknown letter) : more = [] ∧ points = 0x5c :: (kept letter).codePoints := by
  cases h with
  | simple hs => simp [hl.simple] at hs
  | hex hw => simp [hl.hex] at hw
  | octal _ hd =>
      cases hd with
      | cons ho _ => simp [hl.octal] at ho
  | unknown => exact ⟨rfl, rfl⟩

theorem taken_plain (hc : c ≠ '\\') (cs : Text) : taken (c :: cs) = taken cs := by
  rw [taken.eq_2]
  rintro d ds rfl
  exact absurd rfl hc

theorem taken_append {more : Text} (hm : ∀ c ∈ more, c ≠ '\\') (cs : Text) :
    taken (more ++ cs) = taken cs := by
  induction more with
  | nil => rfl
  | cons c more ih =>
      obtain ⟨hc, hm⟩ := List.forall_mem_cons.mp hm
      rw [List.cons_append, taken_plain hc, ih hm]

theorem taken_escape {more : Text} (h : IsEscape kept rest (letter :: more) points) :
    taken ('\\' :: (letter :: more ++ rest)) = letter :: taken rest := by
  rw [List.cons_append, taken, taken_append fun c hc => (h.mem_more c hc).1]

namespace Denotes

theorem plain_inv (hc : c ≠ '\\') (h : Denotes kept (c :: cs) points) :
    ∃ more, Denotes kept cs more ∧ points = c.toNat :: more := by
  cases h with
  | plain _ h => exact ⟨_, h, rfl⟩
  | escape => contradiction

theorem plains {more : Text} (hm : ∀ c ∈ more, c ≠ '\\') (h : Denotes kept cs points) :
    Denotes kept (more ++ cs) (more.codePoints ++ points) := by
  induction more with
  | nil => exact h
  | cons c more ih =>
      obtain ⟨hc, hm⟩ := List.forall_mem_cons.mp hm
      exact .plain hc (ih hm)

theorem plains_inv {more : Text} (hm : ∀ c ∈ more, c ≠ '\\')
    (h : Denotes kept (more ++ cs) points) :
    ∃ rest, Denotes kept cs rest ∧ points = more.codePoints ++ rest := by
  induction more generalizing points with
  | nil => exact ⟨points, h, rfl⟩
  | cons c more ih =>
      obtain ⟨hc, hm⟩ := List.forall_mem_cons.mp hm
      obtain ⟨tail, ht, rfl⟩ := plain_inv hc h
      obtain ⟨rest, hr, rfl⟩ := ih hm ht
      exact ⟨rest, hr, rfl⟩

theorem exists_escape (h : Denotes kept ('\\' :: cs) points) :
    ∃ (letter : Char) (more rest : Text) (here there : List Nat), cs = letter :: (more ++ rest) ∧
      points = here ++ there ∧ IsEscape kept rest (letter :: more) here ∧
      Denotes kept rest there := by
  generalize ht : '\\' :: cs = text at h
  cases h with
  | nil => contradiction
  | plain hc => exact absurd (List.cons.inj ht).1.symm hc
  | @escape text rest here there he h =>
      obtain ⟨letter, more, rfl⟩ := he.exists_cons
      exact ⟨letter, more, rest, here, there, (List.cons.inj ht).2, rfl, he, h⟩

theorem escape_inv {here : List Nat} (he : IsEscape verbatim rest text here)
    (h : Denotes verbatim ('\\' :: (text ++ rest)) points) :
    ∃ more, Denotes verbatim rest more ∧ points = here ++ more := by
  have hd : decodeFrom 0 ('\\' :: (text ++ rest)) = .ok points := decodeFrom_ok_iff.mpr h
  rw [decodeFrom_escape 0 he] at hd
  obtain ⟨more, hm, hp⟩ := map_eq_ok_iff.mp hd
  exact ⟨more, decodeFrom_ok_iff.mp hm, hp.symm⟩

/-- How an unknown letter is kept matters only for letters that a backslash takes. -/
theorem congr (h : Denotes kept text points) (hk : ∀ c ∈ taken text, kept' c = kept c) :
    Denotes kept' text points := by
  induction h with
  | nil => exact .nil
  | plain hc _ ih => exact .plain hc (ih (by rwa [taken_plain hc] at hk))
  | escape he _ ih =>
      obtain ⟨letter, more, rfl⟩ := he.exists_cons
      rw [taken_escape he] at hk
      obtain ⟨hl, hk⟩ := List.forall_mem_cons.mp hk
      exact .escape (he.congr id hl) (ih hk)

theorem mem_of_wide (h : Denotes verbatim text points) (hc : c ∈ text) (hw : 0x100 ≤ c.toNat) :
    c.toNat ∈ points := by
  induction h with
  | nil => simp at hc
  | plain _ _ ih =>
      rcases List.mem_cons.mp hc with rfl | hc
      · exact List.mem_cons_self
      · exact List.mem_cons_of_mem _ (ih hc)
  | escape he _ ih =>
      obtain ⟨letter, more, rfl⟩ := he.exists_cons
      rw [List.cons_append, List.mem_cons, List.mem_cons, List.mem_append] at hc
      rcases hc with rfl | rfl | hc | hc
      · contradiction
      · obtain ⟨-, rfl⟩ := he.eq_of_unknown (unknown_of_wide hw)
        simp [verbatim, codePoints]
      · have hr := (he.mem_more c hc).2
        omega
      · exact List.mem_append_right _ (ih hc)

end Denotes

end Sigil.Escape
