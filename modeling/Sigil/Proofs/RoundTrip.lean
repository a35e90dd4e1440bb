import Sigil.Rule
import Sigil.Proofs.Parsing
import Sigil.Proofs.Rendering

namespace Sigil

open Text Lexer

/-- The tokens that an instance is printed as. -/
def Instance.printed (i : Instance) : List Token :=
  Output.joint i.type.symbol.length 0 (Output.placed (Symbol.lenient i.type.symbol) i.locations)

variable {i : Instance} {is : List Instance} {p : Punctuation} {ps : List (Char × Location)}
  {ts us : List Token} {text : Text} {count start : Nat}

namespace Output

theorem map_fst_placed {atoms : List Atom} {locations : List Location}
    (hl : locations.length = atoms.length) :
    (placed atoms locations).map Prod.fst = atoms.flatMap Atom.text := by
  induction atoms generalizing locations with
  | nil => rfl
  | cons a atoms ih =>
      obtain ⟨l, locations, rfl⟩ := List.exists_cons_of_length_eq_add_one hl
      have h := ih (Nat.succ_injective hl)
      rw [placed] at h
      rw [placed, List.zip_cons_cons, List.flatMap_cons, List.map_append, h, List.flatMap_cons,
        List.map_map]
      congr 1
      exact List.zipIdx_map_fst 0 a.text

theorem map_fst_placed_lenient (hc : ∀ c ∈ text, isPunctuation c = true)
    {locations : List Location} (hl : locations.length = (Symbol.lenient text).length) :
    (placed (Symbol.lenient text) locations).map Prod.fst = text := by
  rw [map_fst_placed hl, Symbol.flatMap_text_lenient hc]

theorem length_joint : (joint count start ps).length = ps.length := by
  induction ps generalizing start with
  | nil => rfl
  | cons x ps ih => simp [joint, ih]

theorem flatMap_pieces_joint (hn : ps ≠ []) (hc : start + ps.length = count) :
    (joint count start ps).flatMap pieces = ps.map Prod.fst ++ [' '] := by
  induction ps generalizing start with
  | nil => exact absurd rfl hn
  | cons x ps ih =>
      obtain ⟨c, l⟩ := x
      rw [List.length_cons] at hc
      rw [joint, List.flatMap_cons]
      cases ps with
      | nil =>
          have hl : start + 1 = count := hc
          simp [joint, pieces, Token.punct, hl]
      | cons y ps =>
          have hl : start + 1 ≠ count := by
            rw [List.length_cons] at hc
            omega
          rw [ih (List.cons_ne_nil y ps) (by omega)]
          simp [pieces, Token.punct, hl]

theorem spells_joint (hc : start + ps.length = count) (us : List Token) :
    Token.spells (ps.map Prod.fst) (joint count start ps ++ us) = true := by
  induction ps generalizing start with
  | nil => rfl
  | cons x ps ih =>
      rw [List.length_cons] at hc
      refine Token.spells_cons.mpr ⟨rfl, rfl, ?_, ih (by omega)⟩
      cases ps with
      | nil => exact .inl rfl
      | cons y ps =>
          rw [List.length_cons] at hc
          exact .inr (decide_eq_false (by omega))

theorem readable_joint (hp : ∀ x ∈ ps, isPunctuation x.1 = true) (hc : start + ps.length = count) :
    Readable (joint count start ps) := by
  induction ps generalizing start with
  | nil => exact .nil
  | cons x ps ih =>
      obtain ⟨c, l⟩ := x
      obtain ⟨hx, hp⟩ := List.forall_mem_cons.mp hp
      rw [List.length_cons] at hc
      have h : Readable (joint count (start + 1) ps) := ih hp (by omega)
      cases ps with
      | nil =>
          have hl : decide (start + 1 = count) = trailing [] := decide_eq_true hc
          rw [joint, hl]
          exact .cons l (Lexeme.scan_of_isPunctuation hx _) (.inl rfl) h
      | cons y ps =>
          obtain ⟨d, m⟩ := y
          have hd : isPunctuation d = true := (List.forall_mem_cons.mp hp).1
          have hl : decide (start + 1 = count) = trailing [d] := by
            rw [List.length_cons] at hc
            rw [decide_eq_false (by omega)]
            exact (isBlank_of_isPunctuation hd).symm
          rw [joint, hl]
          exact .cons l (Lexeme.scan_of_isPunctuation hx _) (.inr ⟨_, _, rfl, rfl⟩) h

end Output

namespace Instance

section

variable (hl : i.locations.length = i.type.length)
include hl

theorem map_fst_printed : (Output.placed (Symbol.lenient i.type.symbol) i.locations).map Prod.fst =
    i.type.symbol :=
  Output.map_fst_placed_lenient i.type.symbol_spec.2.1 hl

theorem length_placed : 0 + (Output.placed (Symbol.lenient i.type.symbol) i.locations).length =
    i.type.symbol.length := by
  rw [Nat.zero_add, ← List.length_map Prod.fst, map_fst_printed hl]

theorem length_printed : i.printed.length = i.type.symbol.length := by
  rw [printed, Output.length_joint, ← length_placed hl, Nat.zero_add]

theorem flatMap_pieces_printed : i.printed.flatMap Output.pieces = i.type.symbol ++ [' '] := by
  have hn : Output.placed (Symbol.lenient i.type.symbol) i.locations ≠ [] := by
    intro hp
    have hs := map_fst_printed hl
    rw [hp] at hs
    exact i.type.symbol_spec.1 hs.symm
  rw [printed, Output.flatMap_pieces_joint hn (length_placed hl), map_fst_printed hl]

theorem isLineEnd_of_mem_printed {t : Token} (ht : t ∈ i.printed) {x : Char} (hx : x ∈ t.text) :
    isLineEnd x = false := by
  have hm : x ∈ i.printed.flatMap Output.pieces :=
    List.mem_flatMap.mpr ⟨t, ht, mem_pieces.mpr (.inl hx)⟩
  rw [flatMap_pieces_printed hl] at hm
  rcases List.mem_append.mp hm with hm | hm
  · exact isLineEnd_of_not_isBlank (isBlank_of_isPunctuation (i.type.symbol_spec.2.1 x hm))
  · rw [List.mem_singleton.mp hm]
    rfl

theorem spells_printed (us : List Token) : Token.spells i.type.symbol (i.printed ++ us) = true := by
  have h := Output.spells_joint (length_placed hl) us
  rwa [map_fst_printed hl] at h

theorem readable_printed : Readable i.printed := by
  refine Output.readable_joint ?_ (length_placed hl)
  intro x hx
  have hm := List.mem_map_of_mem (f := Prod.fst) hx
  rw [map_fst_printed hl] at hm
  exact i.type.symbol_spec.2.1 x.1 hm

theorem toTokens_eq (hf : i.type.features.printing = true) (out : Output) :
    i.toTokens out = .ok (out ++ i.printed) := by
  have hl' : (Symbol.lenient i.type.symbol).length = i.locations.length := hl.symm
  simp [toTokens, require, hf, bind, Except.bind, Output.printPunct, hl', printed]

end

end Instance

namespace Output

theorem extend_eq
    (h : ∀ i ∈ is, i.locations.length = i.type.length ∧ i.type.features.printing = true)
    (out : Output) : extend out is = (out ++ is.flatMap Instance.printed, none) := by
  induction is generalizing out with
  | nil => simp [extend]
  | cons i is ih =>
      obtain ⟨⟨hl, hf⟩, h⟩ := List.forall_mem_cons.mp h
      simp only [extend, Instance.toTokens_eq hl hf, ih h, List.flatMap_cons, List.append_assoc]

variable (h : ∀ i ∈ is, i.locations.length = i.type.length)
include h

theorem readable_printed : Readable (is.flatMap Instance.printed) := by
  induction is with
  | nil => exact .nil
  | cons i is ih =>
      obtain ⟨hl, h⟩ := List.forall_mem_cons.mp h
      rw [List.flatMap_cons]
      exact (Instance.readable_printed hl).append (ih h)

theorem flatMap_pieces_printed (hn : is ≠ []) :
    (is.flatMap Instance.printed).flatMap pieces =
      [' '].intercalate (is.map (·.type.symbol)) ++ [' '] := by
  induction is with
  | nil => exact absurd rfl hn
  | cons i is ih =>
      obtain ⟨hl, h⟩ := List.forall_mem_cons.mp h
      rw [List.flatMap_cons, List.flatMap_append, Instance.flatMap_pieces_printed hl, List.map_cons]
      cases is with
      | nil => simp [List.intercalate]
      | cons j is =>
          rw [ih h (List.cons_ne_nil j is)]
          simp [List.intercalate]

/-- Printed instances are their symbols with single spaces between them. -/
theorem toSource_printed : toSource (is.flatMap Instance.printed) =
    [' '].intercalate (is.map (·.type.symbol)) := by
  cases is with
  | nil => rfl
  | cons i is =>
      exact (readable_printed h).toSource_of_flatMap
        (flatMap_pieces_printed h (List.cons_ne_nil i is))

end Output

theorem Token.spells_congr (h : ts.map Token.content = us.map Token.content) (text : Text) :
    Token.spells text ts = Token.spells text us := by
  induction text generalizing ts us with
  | nil => simp [Token.spells]
  | cons c rest ih =>
      cases ts with
      | nil =>
          obtain rfl := List.map_eq_nil_iff.mp h.symm
          rfl
      | cons t ts =>
          obtain ⟨u, us, rfl, hu, hus⟩ := List.map_eq_cons_iff.mp h.symm
          simp only [Token.content, Prod.mk.injEq] at hu
          simp only [Token.spells, hu, ih hus]

theorem runAll_parse {b : Buffer} {n : Nat} {e : Location}
    (h : ∀ i ∈ is, i.locations.length = i.type.length ∧ i.type.features.parsing = true)
    (hb : (b.tokens.drop n).map Token.content =
      (is.flatMap Instance.printed ++ [Token.endOfInput e]).map Token.content) :
    ∃ (js : List Instance) (s : Stream),
      Rule.runAll (is.map fun i => .parse i.type) ⟨⟨b, n⟩⟩ = (.ok (js.map .item), s) ∧
      js.map Instance.type = is.map Instance.type ∧
      (∀ j ∈ js, j.locations.length = j.type.length) ∧ s.isEmpty = .ok true := by
  have hn : n < b.tokens.length := by
    have hl := congrArg List.length hb
    simp only [List.length_map, List.length_drop, List.length_append, List.length_singleton] at hl
    omega
  induction is generalizing n with
  | nil =>
      refine ⟨[], _, rfl, rfl, by simp, ?_⟩
      rw [List.drop_eq_getElem_cons hn] at hb
      simp only [List.flatMap_nil, List.nil_append, List.map_cons, List.cons.injEq,
        Token.content, Prod.mk.injEq] at hb
      rw [Stream.isEmpty_eq hn, hb.1.1]
      rfl
  | cons i is ih =>
      obtain ⟨⟨hl, hp⟩, h⟩ := List.forall_mem_cons.mp h
      rw [List.flatMap_cons, List.append_assoc] at hb
      have hs : Token.spells i.type.symbol (b.tokens.drop n) = true := by
        rw [Token.spells_congr hb]
        exact Instance.spells_printed hl _
      -- The position moves by one token for each printed character.
      have hd : (b.tokens.drop (n + i.type.symbol.length)).map Token.content =
          (is.flatMap Instance.printed ++ [Token.endOfInput e]).map Token.content := by
        have hd := congrArg (List.drop i.printed.length) hb
        rwa [← List.map_drop, List.drop_drop, ← List.map_drop, List.drop_left,
          Instance.length_printed hl] at hd
      obtain ⟨js, s, hr, ht, hj, he⟩ := ih h hd (Buffer.add_length_lt hn hs)
      obtain ⟨found, hparse, hlen⟩ := Punctuation.parse_of_spells hp hn hs
      refine ⟨⟨i.type, found⟩ :: js, s, ?_, ?_, List.forall_mem_cons.mpr ⟨hlen, hj⟩, he⟩
      · simp only [List.map_cons, Rule.runAll, Rule.run, hparse, Outcome.ofStep, Outcome.map,
          Except.map, Outcome.cons, hr]
      · rw [List.map_cons, List.map_cons, ht]

/-- Instances that are printed one after another give their symbols with single spaces between them,
and from this text their types are parsed again in the same order, up to its end. -/
theorem extend_toSource_runAll
    (h : ∀ i ∈ is, (∃ placement, Instance.build i.type placement = .ok i) ∧
      i.type.features.printing = true ∧ i.type.features.parsing = true) (serial : Nat) :
    ∃ out, Output.extend [] is = (out, none) ∧
      Output.toSource out = [' '].intercalate (is.map (·.type.symbol)) ∧
      ∃ (s t : Stream) (js : List Instance), Stream.open? serial (Output.toSource out) = .ok s ∧
        Rule.runAll (is.map fun i => .parse i.type) s = (.ok (js.map .item), t) ∧
        js.map Instance.type = is.map Instance.type ∧
        (∀ j ∈ js, j.locations.length = j.type.length) ∧ t.isEmpty = .ok true := by
  have hl : ∀ i ∈ is, i.locations.length = i.type.length := by
    intro i hi
    obtain ⟨⟨placement, hb⟩, -⟩ := h i hi
    exact (Instance.length_of_build hb).2
  have hend : ∀ t ∈ is.flatMap Instance.printed, ∀ x ∈ t.text, isLineEnd x = false := by
    intro t ht x hx
    obtain ⟨i, hi, ht⟩ := List.mem_flatMap.mp ht
    exact Instance.isLineEnd_of_mem_printed (hl i hi) ht hx
  obtain ⟨us, e, ht, hu⟩ := tokenize_toSource (Output.readable_printed hl) hend
  obtain ⟨b, ho, hb⟩ := exists_open_of_tokenize ht serial
  have hcontent : (b.tokens.drop 0).map Token.content =
      (is.flatMap Instance.printed ++ [Token.endOfInput e]).map Token.content := by
    rw [hb, List.drop_zero, List.map_append, List.map_append, hu]
  obtain ⟨js, t, hrun, htypes, hlen, hempty⟩ := runAll_parse
    (fun i hi => ⟨hl i hi, (h i hi).2.2⟩) hcontent
  refine ⟨_, Output.extend_eq (fun i hi => ⟨hl i hi, (h i hi).2.1⟩) [], ?_, _, t, js, ?_, hrun,
    htypes, hlen, hempty⟩
  · exact Output.toSource_printed hl
  · exact ho

theorem extend_toSource_arrows :
    ∃ p i, Punctuation.declare 0 "Arrow" ['<', '=', '>'] {} "arrows" = .ok p ∧
      Instance.build p none = .ok i ∧ ∃ out, Output.extend [] [i, i] = (out, none) ∧
      Output.toSource out = ['<', '=', '>', ' ', '<', '=', '>'] ∧
      ∃ (s t : Stream) (js : List Instance), Stream.open? 0 (Output.toSource out) = .ok s ∧
        Rule.runAll [.parse p, .parse p] s = (.ok (js.map .item), t) ∧ js.length = 2 ∧
        t.isEmpty = .ok true := by
  have hn : isIdentifier "Arrow".toList = true := by cbv
  have hs : Symbol.strict ['<', '=', '>'] = .ok [⟨['<', '=']⟩, ⟨['>']⟩] := by cbv
  obtain ⟨p, hp, -⟩ := Punctuation.exists_declare hn hs 0 {} "arrows"
  obtain ⟨hsymbol, hfeatures⟩ := Punctuation.declare_ok hp
  obtain ⟨i, hi⟩ : ∃ i, Instance.build p none = .ok i := ⟨_, rfl⟩
  obtain ⟨rfl, -⟩ := Instance.length_of_build hi
  have h : ∀ j ∈ [i, i], (∃ placement, Instance.build j.type placement = .ok j) ∧
      j.type.features.printing = true ∧ j.type.features.parsing = true := by
    intro j hj
    obtain rfl : j = i := by simpa using hj
    exact ⟨⟨none, hi⟩, by rw [hfeatures], by rw [hfeatures]⟩
  obtain ⟨out, hout, hsource, s, t, js, ho, hr, htypes, -, he⟩ := extend_toSource_runAll h 0
  refine ⟨_, i, hp, hi, out, hout, ?_, s, t, js, ho, hr, ?_, he⟩
  · rw [hsource]
    simp only [List.map_cons, hsymbol]
    rfl
  · simpa using congrArg List.length htypes

end Sigil
