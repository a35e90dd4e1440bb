import Sigil.Stream
import Sigil.Proofs.Decomposition

namespace Sigil

/-- The tokens begin with one punctuation token for each character of the text, all joint but the
last of them. -/
def Token.spells : Text → List Token → Bool
  | [], _ => true
  | _ :: _, [] => false
  | c :: rest, t :: ts =>
    t.kind = .punct && t.text = [c] && (rest = [] || !t.trailing) && Token.spells rest ts

variable {b : Buffer} {i : Nat} {c : Char} {rest text : Text} {t : Token} {ts : List Token}

theorem Token.spells_cons : Token.spells (c :: rest) (t :: ts) = true ↔
    t.kind = .punct ∧ t.text = [c] ∧ (rest = [] ∨ t.trailing = false) ∧
      Token.spells rest ts = true := by
  simp [Token.spells, and_assoc]

theorem Token.length_le_of_spells (h : Token.spells text ts = true) : text.length ≤ ts.length := by
  induction text generalizing ts with
  | nil => simp
  | cons c rest ih =>
      cases ts with
      | nil => simp [Token.spells] at h
      | cons t ts => exact Nat.succ_le_succ (ih (Token.spells_cons.mp h).2.2.2)

theorem Token.length_take_of_spells (hs : Token.spells text ts = true) :
    (ts.take text.length).length = text.length := by
  rw [List.length_take]
  exact Nat.min_eq_left (Token.length_le_of_spells hs)

theorem Token.spells_append (h : text.length ≤ ts.length) (us : List Token) :
    Token.spells text (ts ++ us) = Token.spells text ts := by
  induction text generalizing ts with
  | nil => simp [Token.spells]
  | cons c rest ih =>
      cases ts with
      | nil => simp at h
      | cons t ts =>
          rw [List.cons_append, Token.spells, Token.spells, ih (Nat.le_of_succ_le_succ h)]

theorem Buffer.succ_lt_length (hi : i < b.tokens.length) (hk : b.tokens[i].kind ≠ .eof) :
    i + 1 < b.tokens.length := by
  obtain ⟨t, ht, he⟩ := b.ends_with_eof
  by_cases hl : i + 1 < b.tokens.length
  · exact hl
  · have hz : i = b.tokens.length - 1 := by omega
    rw [List.getLast?_eq_getElem?, ← hz, List.getElem?_eq_getElem hi, Option.some.injEq] at ht
    exact absurd (ht ▸ he) hk

theorem Buffer.add_length_lt (hi : i < b.tokens.length)
    (h : Token.spells text (b.tokens.drop i) = true) : i + text.length < b.tokens.length := by
  induction text generalizing i with
  | nil => exact hi
  | cons c rest ih =>
      rw [List.drop_eq_getElem_cons hi, Token.spells_cons] at h
      have hlt := Buffer.succ_lt_length hi (by simp [h.1])
      have hr := ih hlt h.2.2.2
      rw [List.length_cons]
      omega

theorem Buffer.length_pos (b : Buffer) : 0 < b.tokens.length := by
  obtain ⟨t, ht, -⟩ := b.ends_with_eof
  exact List.length_pos_of_mem (List.mem_of_getLast? ht)

theorem Buffer.exists_ofTokens (serial : Nat) (ht : ts.getLast? = some t) (hk : t.kind = .eof) :
    ∃ b, Buffer.ofTokens serial ts = .ok b ∧ b.tokens = ts := by
  refine ⟨⟨serial, ts, t, ht, hk⟩, ?_, rfl⟩
  unfold Buffer.ofTokens
  split
  next hn => simp [hn] at ht
  next u hu =>
    obtain rfl : t = u := Option.some.inj (ht.symm.trans hu)
    rw [dif_pos hk]

theorem resolveIndex_eq {size i : Nat} (hi : i < size) : resolveIndex size i = some i := by
  simp only [resolveIndex, if_neg (Int.not_lt.mpr (Int.natCast_nonneg i))]
  rw [if_pos (by omega), Int.toNat_natCast]

namespace Cursor

theorem token_eq (hi : i < b.tokens.length) : token ⟨b, i⟩ = .ok b.tokens[i] := by
  simp [token, resolveIndex_eq hi, List.getElem?_eq_getElem hi]

theorem advance_eq (hi : i + 1 < b.tokens.length) : advance ⟨b, i⟩ 1 = ⟨b, (i + 1 : Nat)⟩ := by
  have hm : min ((i : Int) + 1) (b.tokens.length - 1) = (i + 1 : Nat) := by omega
  rw [advance, hm]

theorem punct_eq (hi : i < b.tokens.length) :
    punct ⟨b, i⟩ =
      .ok (if b.tokens[i].kind = .punct then some (b.tokens[i], advance ⟨b, i⟩ 1) else none) := by
  rw [punct, token_eq hi]
  rfl

/-- Matching at a cursor looks at nothing but the tokens from there on, and moves by one token for
each character. -/
theorem matchPunct_eq (hi : i < b.tokens.length) (text : Text) :
    matchPunct ⟨b, i⟩ text =
      .ok (if Token.spells text (b.tokens.drop i) then
        some ((b.tokens.drop i).take text.length, ⟨b, (i + text.length : Nat)⟩) else none) := by
  induction text generalizing i with
  | nil => simp [matchPunct, Token.spells]
  | cons c rest ih =>
      rw [matchPunct, punct_eq hi, List.drop_eq_getElem_cons hi]
      generalize ht : b.tokens[i] = t
      by_cases hk : t.kind = .punct
      · have hlt : i + 1 < b.tokens.length := Buffer.succ_lt_length hi (by simp [ht, hk])
        by_cases hc : t.text = [c] ∧ (rest = [] ∨ t.trailing = false)
        · have hs : Token.spells (c :: rest) (t :: b.tokens.drop (i + 1)) =
              Token.spells rest (b.tokens.drop (i + 1)) := by
            rw [Bool.eq_iff_iff, Token.spells_cons]
            simp [hk, hc]
          have hp : i + 1 + rest.length = i + (c :: rest).length := by
            rw [List.length_cons]
            omega
          simp only [hk, if_true, hc, and_self, advance_eq hlt, ih hlt, hs, hp, Except.map]
          split <;> rfl
        · have hs : Token.spells (c :: rest) (t :: b.tokens.drop (i + 1)) = false := by
            rw [Bool.eq_false_iff, Ne, Token.spells_cons]
            tauto
          simp [hk, hc, hs]
      · simp [hk, Token.spells]

theorem peekPunct_eq (hi : i < b.tokens.length) (text : Text) :
    peekPunct ⟨b, i⟩ text = .ok (Token.spells text (b.tokens.drop i)) := by
  rw [peekPunct, matchPunct_eq hi]
  cases Token.spells text (b.tokens.drop i) <;> rfl

end Cursor

namespace Stream

theorem isEmpty_eq (hi : i < b.tokens.length) :
    isEmpty ⟨⟨b, i⟩⟩ = .ok (decide (b.tokens[i].kind = .eof)) := by
  rw [isEmpty, Cursor.isEof, Cursor.token_eq hi]
  rfl

theorem map_some_atomLocations (hc : ∀ c ∈ text, isPunctuation c = true)
    (hl : ts.length = text.length) :
    (atomLocations text ts).map some =
      (Symbol.offsets 0 (Symbol.lenient text)).map fun o => ts[o]?.map Token.location := by
  have ho : ∀ o ∈ Symbol.offsets 0 (Symbol.lenient text), o < ts.length := by
    intro o ho
    rw [hl]
    exact Symbol.lt_of_mem_offsets_lenient hc ho
  rw [atomLocations]
  generalize Symbol.offsets 0 (Symbol.lenient text) = os at ho
  induction os with
  | nil => rfl
  | cons o os ih =>
      obtain ⟨hlt, ho⟩ := List.forall_mem_cons.mp ho
      simp [List.getElem?_eq_getElem hlt, ih ho]

theorem length_atomLocations (hc : ∀ c ∈ text, isPunctuation c = true)
    (hl : ts.length = text.length) :
    (atomLocations text ts).length = (Symbol.lenient text).length := by
  have h := congrArg List.length (map_some_atomLocations hc hl)
  rwa [List.length_map, List.length_map, Symbol.length_offsets] at h

theorem length_atomLocations_of_spells (hc : ∀ c ∈ text, isPunctuation c = true)
    (hs : Token.spells text ts = true) :
    (atomLocations text (ts.take text.length)).length = (Symbol.lenient text).length :=
  length_atomLocations hc (Token.length_take_of_spells hs)

theorem getElem?_atomLocations (hc : ∀ c ∈ text, isPunctuation c = true)
    (hl : ts.length = text.length) {k : Nat} (hk : k < (Symbol.lenient text).length) :
    (atomLocations text ts)[k]? =
      ts[(((Symbol.lenient text).take k).map Atom.length).sum]?.map Token.location := by
  have h := congrArg (·[k]?) (map_some_atomLocations hc hl)
  simp only [List.getElem?_map, Symbol.getElem?_offsets 0 _ hk, Nat.zero_add, Option.map_some] at h
  have hl' := length_atomLocations hc hl
  rw [← hl'] at hk
  rw [List.getElem?_eq_getElem hk] at h ⊢
  exact Option.some.inj h

theorem parsePunct_eq (hi : i < b.tokens.length) (text : Text) :
    parsePunct ⟨⟨b, i⟩⟩ text =
      if Token.spells text (b.tokens.drop i) then
        .ok (atomLocations text ((b.tokens.drop i).take text.length),
          ⟨⟨b, (i + text.length : Nat)⟩⟩)
      else .error (failure ⟨⟨b, i⟩⟩ ("expected `" ++ String.ofList text ++ "`")) := by
  rw [parsePunct, Cursor.matchPunct_eq hi]
  cases Token.spells text (b.tokens.drop i) with
  | false => rfl
  | true =>
      have hm : advanceTo ⟨⟨b, i⟩⟩ ⟨b, (i + text.length : Nat)⟩ =
          .ok ⟨⟨b, (i + text.length : Nat)⟩⟩ := by
        simp only [advanceTo]
        rw [if_neg (by simp), if_neg (by omega)]
      simp only [if_true, hm]
      rfl

end Stream

namespace Placement

theorem mapM_id_eq_some_iff {given : List (Option Location)} {ls : List Location} :
    given.mapM id = some ls ↔ given = ls.map some := by
  induction given generalizing ls with
  | nil => cases ls <;> simp
  | cons g given ih =>
      simp only [List.mapM_cons, Option.bind_eq_bind, Option.bind_eq_some_iff, ih, id,
        Option.pure_def, Option.some.injEq]
      constructor
      · rintro ⟨l, rfl, ms, rfl, rfl⟩
        rfl
      · intro h
        obtain ⟨l, ms, rfl, rfl, rfl⟩ := List.map_eq_cons_iff.mp h.symm
        exact ⟨l, rfl, ms, rfl, rfl⟩

theorem locations_ok_iff {given : Placement} {n : Nat} {ls : List Location} :
    given.locations n = .ok ls ↔
      (∃ l, given = .one l ∧ ls = List.replicate n l) ∨
        given = .many (ls.map some) ∧ ls.length = n := by
  cases given with
  | one l => simp [locations, eq_comm]
  | other given => simp [locations]
  | many given =>
      constructor
      · intro h
        rw [locations] at h
        split at h
        next hn =>
          split at h
          next ms hm =>
            obtain rfl := Except.ok.inj h
            obtain rfl := mapM_id_eq_some_iff.mp hm
            exact .inr ⟨rfl, by simpa using hn⟩
          next => simp at h
        next => simp at h
      · rintro (⟨l, hl, -⟩ | ⟨hg, rfl⟩)
        · simp at hl
        · obtain rfl := Placement.many.inj hg
          rw [locations, if_pos (by simp), mapM_id_eq_some_iff.mpr rfl]

end Placement

namespace Instance

variable {p : Punctuation} {i : Instance}

theorem build_ok_iff {given : Placement} :
    build p (some given) = .ok i ↔ i.type = p ∧
      ((∃ l, given = .one l ∧ i.locations = List.replicate p.length l) ∨
        given = .many (i.locations.map some) ∧ i.locations.length = p.length) := by
  obtain ⟨q, ls⟩ := i
  have hb : build p (some given) = .ok ⟨q, ls⟩ ↔
      q = p ∧ given.locations p.length = .ok ls := by
    rw [build, Option.getD_some]
    cases given.locations p.length <;> simp [Except.map, eq_comm]
  rw [hb, Placement.locations_ok_iff]

theorem length_of_build {placement : Option Placement} (h : build p placement = .ok i) :
    i.type = p ∧ i.locations.length = p.length := by
  have h' : build p (some (placement.getD (.one .toolchain))) = .ok i := h
  obtain ⟨ht, ⟨l, -, hl⟩ | ⟨-, hl⟩⟩ := build_ok_iff.mp h'
  · exact ⟨ht, by rw [hl, List.length_replicate]⟩
  · exact ⟨ht, hl⟩

theorem build_of_length {p : Punctuation} {ls : List Location} (hl : ls.length = p.length) :
    build p (some (.many (ls.map some))) = .ok ⟨p, ls⟩ :=
  build_ok_iff.mpr ⟨rfl, .inr ⟨rfl, hl⟩⟩

end Instance

namespace Punctuation

variable {p : Punctuation}

theorem declare_spec {serial : Nat} {name : String} {symbol : Text} {features : Features}
    {module : String} (h : declare serial name symbol features module = .ok p) :
    Text.isIdentifier name.toList = true ∧ p.name = name ∧ p.symbol = symbol ∧
      p.features = features := by
  unfold declare at h
  split at h
  next hn =>
    split at h
    next => simp at h
    next =>
      split at h
      next => exact Except.ok.inj h ▸ ⟨hn, rfl, rfl, rfl⟩
      next => simp at h
  next => simp at h

theorem declare_ok {serial : Nat} {name : String} {symbol : Text} {features : Features}
    {module : String} (h : declare serial name symbol features module = .ok p) :
    p.symbol = symbol ∧ p.features = features :=
  (declare_spec h).2.2

theorem exists_declare {name : String} {symbol : Text} {atoms : List Atom}
    (hn : Text.isIdentifier name.toList = true) (hs : Symbol.strict symbol = .ok atoms)
    (serial : Nat) (features : Features) (module : String) :
    ∃ p, declare serial name symbol features module = .ok p ∧ p.atoms = atoms := by
  obtain ⟨-, -, hl⟩ := Symbol.strict_ok_iff.mp hs
  rw [declare, if_pos hn]
  split
  next e he => simp [hs] at he
  next as ha =>
    obtain rfl : atoms = as := Except.ok.inj (hs.symm.trans ha)
    rw [if_pos (by rw [hl])]
    exact ⟨_, rfl, rfl⟩

theorem symbol_spec (p : Punctuation) :
    p.symbol ≠ [] ∧ (∀ c ∈ p.symbol, isPunctuation c = true) ∧ p.atoms = Symbol.lenient p.symbol :=
  Symbol.strict_ok_iff.mp p.strict_symbol

theorem peek_eq (hp : p.features.parsing = true) (hi : i < b.tokens.length) :
    p.peek ⟨b, i⟩ = .ok (Token.spells p.symbol (b.tokens.drop i)) := by
  rw [peek, requireParsing, if_pos hp]
  exact Cursor.peekPunct_eq hi p.symbol

/-- Parsing a type succeeds just where its symbol is spelled, and gives one location for each
atom. -/
theorem parse_eq (hp : p.features.parsing = true) (hi : i < b.tokens.length) :
    p.parse ⟨⟨b, i⟩⟩ =
      if Token.spells p.symbol (b.tokens.drop i) then
        .ok (⟨p, Stream.atomLocations p.symbol ((b.tokens.drop i).take p.symbol.length)⟩,
          ⟨⟨b, (i + p.symbol.length : Nat)⟩⟩)
      else .error (Stream.failure ⟨⟨b, i⟩⟩ ("expected `" ++ String.ofList p.symbol ++ "`")) := by
  obtain ⟨-, hc, -⟩ := p.symbol_spec
  simp only [parse, requireParsing, hp, if_true, Stream.parsePunct_eq hi, bind, Except.bind]
  cases hs : Token.spells p.symbol (b.tokens.drop i) with
  | false => rfl
  | true =>
      have hb := Instance.build_of_length (p := p) (Stream.length_atomLocations_of_spells hc hs)
      simp [hb, pure, Except.pure]

theorem parse_of_spells (hp : p.features.parsing = true) (hi : i < b.tokens.length)
    (hs : Token.spells p.symbol (b.tokens.drop i) = true) :
    ∃ ls, p.parse ⟨⟨b, i⟩⟩ = .ok (⟨p, ls⟩, ⟨⟨b, (i + p.symbol.length : Nat)⟩⟩) ∧
      ls.length = p.length := by
  refine ⟨_, ?_, Stream.length_atomLocations_of_spells p.symbol_spec.2.1 hs⟩
  rw [parse_eq hp hi, if_pos hs]

end Punctuation

end Sigil
