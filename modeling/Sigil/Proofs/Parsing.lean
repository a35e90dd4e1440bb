import Sigil.Proofs.Lexer
import Sigil.Proofs.Matching

namespace Sigil

open Text

namespace Lexer

variable {source : Source} {place : Nat → Location} {row column : Nat} {c : Char}
  {cs s rest : Text} {ts us : List Token}

/-- The tokens of punctuation characters in a row, with the text that follows them. -/
def punctRun (place : Nat → Location) (column : Nat) : Text → Text → List Token
  | [], _ => []
  | c :: s, rest =>
    .punct c (place column) (trailing (s ++ rest)) :: punctRun place (column + 1) s rest

theorem trailing_cons_of_isPunctuation (hc : isPunctuation c = true) (cs : Text) :
    trailing (c :: cs) = false := isBlank_of_isPunctuation hc

theorem exists_cons_of_trailing (h : trailing cs = false) :
    ∃ c cs', cs = c :: cs' ∧ isBlank c = false := by
  cases cs with
  | nil => simp [trailing] at h
  | cons c cs => exact ⟨c, cs, rfl, h⟩

theorem Reads.punct_inv (h : Reads place column (c :: cs) ts) (hc : isPunctuation c = true) :
    ∃ us, ts = .punct c (place column) (trailing cs) :: us ∧ Reads place (column + 1) cs us := by
  obtain ⟨l, rest, us, rfl, hl, hu, rfl⟩ := h.cons_inv (isBlank_of_isPunctuation hc)
  rw [Lexeme.scan_of_isPunctuation hc] at hl
  obtain rfl := Except.ok.inj hl
  exact ⟨us, rfl, hu⟩

theorem length_punctRun (place : Nat → Location) (column : Nat) (s rest : Text) :
    (punctRun place column s rest).length = s.length := by
  induction s generalizing column with
  | nil => rfl
  | cons c s ih => simp [punctRun, ih]

theorem location_punctRun (place : Nat → Location) (column : Nat) (s rest : Text) {j : Nat}
    (hj : j < s.length) :
    (punctRun place column s rest)[j]?.map Token.location = some (place (column + j)) := by
  induction s generalizing column j with
  | nil => simp at hj
  | cons c s ih =>
      cases j with
      | zero => rfl
      | succ j =>
          rw [punctRun, List.getElem?_cons_succ, ih _ (Nat.lt_of_succ_lt_succ hj)]
          congr 2
          omega

theorem reads_append_iff (hs : ∀ c ∈ s, isPunctuation c = true) :
    Reads place column (s ++ rest) ts ↔
      ∃ us, ts = punctRun place column s rest ++ us ∧ Reads place (column + s.length) rest us := by
  induction s generalizing column ts with
  | nil => simp [punctRun]
  | cons c s ih =>
      obtain ⟨hc, hs⟩ := List.forall_mem_cons.mp hs
      have hadd : column + 1 + s.length = column + (c :: s).length := by
        rw [List.length_cons]
        omega
      constructor
      · intro h
        obtain ⟨us, rfl, hu⟩ := h.punct_inv hc
        obtain ⟨vs, rfl, hv⟩ := (ih hs).mp hu
        exact ⟨vs, rfl, hadd ▸ hv⟩
      · rintro ⟨us, rfl, h⟩
        exact .punct hc ((ih hs).mpr ⟨us, rfl, hadd.symm ▸ h⟩)

theorem spells_punctRun (hs : ∀ c ∈ s, isPunctuation c = true) (place : Nat → Location)
    (column : Nat) (rest : Text) (us : List Token) :
    Token.spells s (punctRun place column s rest ++ us) = true := by
  induction s generalizing column with
  | nil => rfl
  | cons c s ih =>
      obtain ⟨-, hs⟩ := List.forall_mem_cons.mp hs
      refine Token.spells_cons.mpr ⟨rfl, rfl, ?_, ih hs _⟩
      cases s with
      | nil => exact .inl rfl
      | cons d s =>
          exact .inr (trailing_cons_of_isPunctuation (hs d List.mem_cons_self) (s ++ rest))

theorem Reads.prefix_of_spells (h : Reads place column cs ts) (hc : trailing cs = false)
    (hs : Token.spells s (ts ++ us) = true) : s <+: cs := by
  induction s generalizing column cs ts with
  | nil => exact List.nil_prefix
  | cons d s ih =>
      obtain ⟨c, cs, rfl, hb⟩ := exists_cons_of_trailing hc
      obtain ⟨l, rest, vs, rfl, hl, -, rfl⟩ := h.cons_inv hb
      obtain ⟨hk, ht, hj, hs'⟩ := Token.spells_cons.mp hs
      have hp : isPunctuation c = true := (Lexeme.kind_of_scan hl).2.mp hk
      obtain ⟨ws, hw, hr⟩ := h.punct_inv hp
      obtain ⟨hd, rfl⟩ := List.cons.inj hw
      obtain rfl : c = d := (List.cons.inj ht).1
      rcases hj with rfl | hj
      · exact List.cons_prefix_cons.mpr ⟨rfl, List.nil_prefix⟩
      · refine List.cons_prefix_cons.mpr ⟨rfl, ih hr ?_ hs'⟩
        rw [← hj, hd]
        rfl

/-- At every token, spelling is a matter of the text from there to the end of the line. -/
theorem Ahead.spells_iff (h : Ahead source row column cs ts) (hn : s ≠ [])
    (hs : ∀ c ∈ s, isPunctuation c = true) : Token.spells s ts = true ↔ s <+: cs := by
  cases h with
  | token us hc h =>
      constructor
      · exact h.prefix_of_spells hc
      · rintro ⟨rest, rfl⟩
        obtain ⟨vs, rfl, -⟩ := (reads_append_iff hs).mp h
        rw [List.append_assoc]
        exact spells_punctRun hs _ _ _ _
  | ending =>
      obtain ⟨c, s, rfl⟩ := List.exists_cons_of_ne_nil hn
      simp [Token.spells, Token.endOfInput]

theorem Ahead.location_of_prefix (h : Ahead source row column cs ts)
    (hs : ∀ c ∈ s, isPunctuation c = true) (hp : s <+: cs) {j : Nat} (hj : j < s.length) :
    ts[j]?.map Token.location = some (.inSource source row (column + j)) := by
  cases h with
  | token us hc h =>
      obtain ⟨rest, rfl⟩ := hp
      obtain ⟨vs, rfl, -⟩ := (reads_append_iff hs).mp h
      rw [List.append_assoc, List.getElem?_append_left (by rwa [length_punctRun])]
      exact location_punctRun _ _ _ _ hj
  | ending =>
      rw [List.prefix_nil.mp hp] at hj
      exact absurd hj (Nat.not_lt_zero j)

theorem Ahead.location (h : Ahead source row column cs ts) :
    ∃ t, ts.head? = some t ∧ t.location = .inSource source row column := by
  cases h with
  | token us hc h =>
      obtain ⟨c, cs, rfl, hb⟩ := exists_cons_of_trailing hc
      obtain ⟨l, rest, vs, -, -, -, rfl⟩ := h.cons_inv hb
      exact ⟨_, rfl, rfl⟩
  | ending => exact ⟨_, rfl, rfl⟩

theorem Ahead.atomLocations (h : Ahead source row column cs ts) (hn : s ≠ [])
    (hs : ∀ c ∈ s, isPunctuation c = true) (hp : s <+: cs) :
    (Stream.atomLocations s (ts.take s.length)).length = (Symbol.lenient s).length ∧
      ∀ k < (Symbol.lenient s).length,
        (Stream.atomLocations s (ts.take s.length))[k]? =
          some (.inSource source row
            (column + (((Symbol.lenient s).take k).map Atom.length).sum)) := by
  have hl := Token.length_take_of_spells ((h.spells_iff hn hs).mpr hp)
  refine ⟨Stream.length_atomLocations hs hl, ?_⟩
  intro k hk
  have hlt := Symbol.sum_take_lt hs hk
  rw [Stream.getElem?_atomLocations hs hl hk, List.getElem?_take_of_lt hlt]
  exact h.location_of_prefix hs hp hlt

end Lexer

variable {text : Text} {tokens : List Token}

theorem exists_buffer_of_tokenize (h : tokenize text = .ok tokens) (serial : Nat) :
    ∃ b, Buffer.ofTokens serial tokens = .ok b ∧ b.tokens = tokens := by
  obtain ⟨l, hl⟩ := (Lexer.tokenize_eq_ok_iff.mp h).getLast?
  exact Buffer.exists_ofTokens serial hl rfl

theorem exists_open_of_tokenize (h : tokenize text = .ok tokens) (serial : Nat) :
    ∃ b, Stream.open? serial text = .ok ⟨⟨b, (0 : Nat)⟩⟩ ∧ b.tokens = tokens := by
  obtain ⟨b, hb, ht⟩ := exists_buffer_of_tokenize h serial
  refine ⟨b, ?_, ht⟩
  simp [Stream.open?, h, Stream.ofTokens, hb, bind, Except.bind, Except.map, Cursor.start]

end Sigil
