import Sigil.Rule
import Sigil.Proofs.Matching

namespace Sigil

variable {b : Buffer} {i k : Nat} {text : Text} {ts : List Token}

/-- Each character of the text is a token of its own, and none but the last of these tokens has
whitespace after it. -/
theorem Token.spells_iff_forall : Token.spells text ts = true ↔
    ∀ (k : Nat) (c : Char), text[k]? = some c → ∃ t, ts[k]? = some t ∧ t.kind = .punct ∧
      t.text = [c] ∧ (k + 1 < text.length → t.trailing = false) := by
  induction text generalizing ts with
  | nil => simp [Token.spells]
  | cons c rest ih =>
      cases ts with
      | nil =>
          simp only [Token.spells, Bool.false_eq_true, false_iff]
          intro h
          obtain ⟨t, ht, -⟩ := h 0 c rfl
          simp at ht
      | cons t ts =>
          rw [Token.spells_cons, ih]
          constructor
          · rintro ⟨hk, ht, hj, hs⟩ k d hd
            cases k with
            | zero =>
                obtain rfl : c = d := by simpa using hd
                refine ⟨t, rfl, hk, ht, ?_⟩
                intro hl
                apply hj.resolve_left
                rintro rfl
                simp at hl
            | succ k =>
                obtain ⟨u, hu, huk, hut, hl⟩ := hs k d (by simpa using hd)
                exact ⟨u, by simpa using hu, huk, hut, fun hlt => hl (by simpa using hlt)⟩
          · intro h
            obtain ⟨u, hu, hk, ht, hj⟩ := h 0 c rfl
            obtain rfl : t = u := by simpa using hu
            refine ⟨hk, ht, ?_, ?_⟩
            · by_cases hr : rest = []
              · exact .inl hr
              · exact .inr (hj (by simpa using List.length_pos_iff.mpr hr))
            · intro k d hd
              obtain ⟨u, hu, huk, hut, hl⟩ := h (k + 1) d (by simpa using hd)
              exact ⟨u, by simpa using hu, huk, hut, fun hlt => hl (by simpa using hlt)⟩

/-- Where a text is spelled, the end of input is still to come, so a cursor steps from each of its
characters to the next token. -/
theorem Cursor.advance_of_spells (hi : i < b.tokens.length)
    (hs : Token.spells text (b.tokens.drop i) = true) (hk : k < text.length) :
    advance ⟨b, (i + k : Nat)⟩ 1 = ⟨b, (i + k + 1 : Nat)⟩ := by
  have hl := Buffer.add_length_lt hi hs
  apply advance_eq
  omega

/-- Each atom is located at the token that its first character is. -/
theorem Stream.exists_location_of_spells (hc : ∀ c ∈ text, isPunctuation c = true)
    (hs : Token.spells text (b.tokens.drop i) = true) (hk : k < (Symbol.lenient text).length) :
    ∃ t, b.tokens[i + (((Symbol.lenient text).take k).map Atom.length).sum]? = some t ∧
      (atomLocations text ((b.tokens.drop i).take text.length))[k]? = some t.location := by
  have hlt := Symbol.sum_take_lt hc hk
  obtain ⟨t, ht, -⟩ := Token.spells_iff_forall.mp hs _ _ (List.getElem?_eq_getElem hlt)
  refine ⟨t, ?_, ?_⟩
  · rwa [List.getElem?_drop] at ht
  · rw [getElem?_atomLocations hc (Token.length_take_of_spells hs) hk,
      List.getElem?_take_of_lt hlt, ht]
    rfl

/-- At every token of a buffer, whatever its tokens are, peeking tells how parsing will end. If the
symbol is found there, it is taken one token after the other, without ever running into the end of
the buffer, and each atom is located at its own token. If it is not, the failure names the symbol
and the token, and the stream stays where it was. -/
theorem Punctuation.parse_of_peek (p : Punctuation) (hp : p.features.parsing = true) (b : Buffer)
    {i : Nat} (hi : i < b.tokens.length) :
    ∃ found, p.peek ⟨b, i⟩ = .ok found ∧
      (found = true ↔ ∀ (k : Nat) (c : Char), p.symbol[k]? = some c →
        ∃ t, b.tokens[i + k]? = some t ∧ t.kind = .punct ∧ t.text = [c] ∧
          (k + 1 < p.symbol.length → t.trailing = false)) ∧
      (found = true → i + p.symbol.length < b.tokens.length ∧
        (∀ k < p.symbol.length,
          Cursor.advance ⟨b, (i + k : Nat)⟩ 1 = ⟨b, (i + k + 1 : Nat)⟩) ∧
        ∃ ls, p.parse ⟨⟨b, i⟩⟩ = .ok (⟨p, ls⟩, ⟨⟨b, (i + p.symbol.length : Nat)⟩⟩) ∧
          ls.length = p.length ∧
          ∀ k < p.length, ∃ t,
            b.tokens[i + ((p.atoms.take k).map Atom.length).sum]? = some t ∧
              ls[k]? = some t.location) ∧
      (found = false →
        p.parse ⟨⟨b, i⟩⟩ =
          .error (.parse ("expected `" ++ String.ofList p.symbol ++ "`") b.tokens[i]) ∧
        (Parsable.run ⟨⟨b, i⟩⟩ (.type p)).2 = ⟨⟨b, i⟩⟩) := by
  obtain ⟨-, hc, hatoms⟩ := p.symbol_spec
  refine ⟨_, peek_eq hp hi, ?_, ?_, ?_⟩
  · simp only [Token.spells_iff_forall, List.getElem?_drop]
  · intro hs
    refine ⟨Buffer.add_length_lt hi hs, fun k hk => Cursor.advance_of_spells hi hs hk, _, ?_,
      Stream.length_atomLocations_of_spells hc hs, ?_⟩
    · rw [parse_eq hp hi, if_pos hs]
    · intro k hk
      rw [hatoms]
      exact Stream.exists_location_of_spells hc hs hk
  · intro hs
    have he : p.parse ⟨⟨b, i⟩⟩ =
        .error (.parse ("expected `" ++ String.ofList p.symbol ++ "`") b.tokens[i]) := by
      rw [parse_eq hp hi, if_neg (by simp [hs]), Stream.failure, Stream.error, Cursor.token_eq hi]
      rfl
    refine ⟨he, ?_⟩
    rw [Parsable.run, he]
    rfl

theorem Punctuation.parse_of_peek_arrow :
    ∃ p b, declare 0 "Arrow" ['<', '=', '>'] {} "arrows" = .ok p ∧ p.features.parsing = true ∧
      b.tokens.length = 4 ∧ p.peek ⟨b, (0 : Nat)⟩ = .ok true ∧
      (∃ ls, p.parse ⟨⟨b, (0 : Nat)⟩⟩ = .ok (⟨p, ls⟩, ⟨⟨b, (3 : Nat)⟩⟩) ∧
        ls[1]? = some ⟨2, 9, .string none⟩) ∧
      p.peek ⟨b, (1 : Nat)⟩ = .ok false ∧
      p.parse ⟨⟨b, (1 : Nat)⟩⟩ =
        .error (.parse "expected `<=>`" (.punct '=' .toolchain false)) := by
  have hn : Text.isIdentifier "Arrow".toList = true := by cbv
  have hs : Symbol.strict ['<', '=', '>'] = .ok [⟨['<', '=']⟩, ⟨['>']⟩] := by cbv
  obtain ⟨p, hp, ha⟩ := exists_declare hn hs 0 {} "arrows"
  obtain ⟨hsymbol, hfeatures⟩ := declare_ok hp
  have hf : p.features.parsing = true := by rw [hfeatures]
  have hl : p.length = 2 := by
    rw [length, ← p.symbol_spec.2.2, ha]
    rfl
  let b : Buffer := ⟨0, [.punct '<' ⟨7, 3, .string none⟩ false, .punct '=' .toolchain false,
    .punct '>' ⟨2, 9, .string none⟩ true, .endOfInput .toolchain], _, rfl, rfl⟩
  have h0 : 0 < b.tokens.length := by decide
  have h1 : 1 < b.tokens.length := by decide
  obtain ⟨found, hpeek, -, hyes, -⟩ := p.parse_of_peek hf b h0
  obtain ⟨missed, hmiss, -, -, hno⟩ := p.parse_of_peek hf b h1
  have htrue : found = true := by
    rw [peek_eq hf h0, hsymbol] at hpeek
    exact (Except.ok.inj hpeek).symm
  have hfalse : missed = false := by
    rw [peek_eq hf h1, hsymbol] at hmiss
    exact (Except.ok.inj hmiss).symm
  obtain ⟨-, -, ls, hparse, -, hls⟩ := hyes htrue
  obtain ⟨t, ht, hloc⟩ := hls 1 (by omega)
  rw [hsymbol] at hparse
  rw [ha] at ht
  refine ⟨p, b, hp, hf, rfl, htrue ▸ hpeek, ⟨ls, hparse, ?_⟩, hfalse ▸ hmiss, ?_⟩
  · rw [hloc, ← Option.some.inj ht]
    rfl
  · rw [(hno hfalse).1, hsymbol]
    rfl

end Sigil
