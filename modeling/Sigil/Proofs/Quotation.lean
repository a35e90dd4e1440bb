import Sigil.Proofs.Faults
import Sigil.Proofs.Literal

/-!
Where a literal ends: behind the first quote with an even run of backslashes in front of it. The
decoder of escapes takes backslashes two by two as well, however long the escapes between them are,
so it never comes to a single one at the end of a body.
-/

namespace Sigil.Literal

open Text Escape

/-- A literal whose body begins at `start` could end at `stop`: the character before it is the
quote, and the run of backslashes in front of that, which does not reach back behind `start`, is
even. -/
structure EndsAt (quote : Char) (text : Text) (start stop : Nat) : Prop where
  lt : start < stop
  closing : text[stop - 1]? = some quote
  even : Even (backslashes ((text.take (stop - 1)).drop start))

/-- Each backslash takes the next character with it, and none is left over. -/
inductive Paired : Text → Prop
  | nil : Paired []
  | plain {c : Char} {cs : Text} (hc : c ≠ '\\') (h : Paired cs) : Paired (c :: cs)
  | escape (c : Char) {cs : Text} (h : Paired cs) : Paired ('\\' :: c :: cs)

/-- The character with a name, if the text begins with one in braces, and how many characters there
are with the braces. -/
def named? (names : Text → Option Nat) : Text → Option (List Nat × Nat)
  | '{' :: cs =>
    let name := cs.takeWhile (· ≠ '}')
    if name.length < cs.length then (names name).map fun point => ([point], name.length + 2)
    else none
  | _ => none

/-- Decodes as `decodeFrom` does, where characters may have names. -/
def decodeNamed (names : Text → Option Nat) (place : Nat) : Text → Except Escape.Error (List Nat)
  | [] => .ok []
  | ['\\'] => .error ⟨place, place, .loneBackslash⟩
  | '\\' :: letter :: cs =>
    match if letter = 'N' then named? names cs else none with
    | some (points, used) =>
      (decodeNamed names (place + 2 + used) (cs.drop used)).map (points ++ ·)
    | none =>
      match decodeEscape place letter cs with
      | .error e => .error e
      | .ok (points, used) =>
        (decodeNamed names (place + 2 + used) (cs.drop used)).map (points ++ ·)
  | c :: cs => (decodeNamed names (place + 1) cs).map (c.toNat :: ·)
termination_by cs => cs.length

variable {quote letter c : Char} {text cs more rest : Text} {start stop place used i : Nat}
  {kept : Char → Text} {names : Text → Option Nat} {points : List Nat} {e : Escape.Error}

theorem closes_iff_endsAt : closes (· = quote) [] (text.drop start) i = true ↔
    EndsAt quote text start (start + i + 1) := by
  have hbody : (text.take (start + i)).drop start = (text.drop start).take i := by
    rw [List.drop_take, Nat.add_sub_cancel_left]
  rw [closes, Bool.and_eq_true, decide_eq_true_eq, List.getElem?_drop, List.nil_append,
    Option.any_eq_true]
  constructor
  · rintro ⟨⟨c, hc, hq⟩, he⟩
    exact ⟨by omega, of_decide_eq_true hq ▸ hc, hbody ▸ he⟩
  · rintro ⟨-, hq, he⟩
    exact ⟨⟨quote, hq, decide_eq_true rfl⟩, hbody ▸ he⟩

theorem EndsAt.exists_closes (h : EndsAt quote text start stop) :
    ∃ i, stop = start + i + 1 ∧ closes (· = quote) [] (text.drop start) i = true := by
  obtain ⟨i, rfl⟩ := Nat.exists_eq_add_of_lt h.lt
  exact ⟨i, rfl, closes_iff_endsAt.mpr h⟩

theorem quotedEnd_eq_some_iff : quotedEnd (· = quote) text start = some stop ↔
    IsLeast {stop | EndsAt quote text start stop} stop := by
  have hfind : quotedLength (· = quote) false (text.drop start) = _ :=
    quotedLength_eq_find? (· = quote) [] (text.drop start)
  rw [quotedEnd, hfind, Option.map_map, Option.map_eq_some_iff]
  simp only [List.find?_range_eq_some]
  constructor
  · rintro ⟨i, ⟨hi, -, hfirst⟩, rfl⟩
    refine ⟨closes_iff_endsAt.mp hi, fun stop hs => ?_⟩
    obtain ⟨j, rfl, hj⟩ := EndsAt.exists_closes hs
    by_contra hlt
    have hn := hfirst j (by simp only [Function.comp_apply] at hlt; omega)
    simp [hj] at hn
  · rintro ⟨hs, hfirst⟩
    obtain ⟨i, rfl, hi⟩ := EndsAt.exists_closes hs
    have hlt : i < (text.drop start).length := by
      by_contra hn
      rw [closes, List.getElem?_eq_none (Nat.le_of_not_lt hn)] at hi
      contradiction
    refine ⟨i, ⟨hi, List.mem_range.mpr hlt, fun j hj => ?_⟩, rfl⟩
    by_contra hn
    have hle := hfirst (closes_iff_endsAt.mp (by simpa using hn))
    omega

theorem quotedEnd_eq_none_iff : quotedEnd (· = quote) text start = none ↔
    ∀ stop, ¬ EndsAt quote text start stop := by
  constructor
  · intro hnone stop hs
    classical
    have hex : ∃ stop, EndsAt quote text start stop := ⟨stop, hs⟩
    have hleast : IsLeast {stop | EndsAt quote text start stop} (Nat.find hex) :=
      ⟨Nat.find_spec hex, fun _ hm => Nat.find_min' hex hm⟩
    rw [quotedEnd_eq_some_iff.mpr hleast] at hnone
    contradiction
  · intro h
    by_contra hsome
    obtain ⟨stop, hs⟩ := Option.ne_none_iff_exists'.mp hsome
    exact h stop (quotedEnd_eq_some_iff.mp hs).1

theorem backslashes_eq_zero (h : ∀ c ∈ cs.getLast?, c ≠ '\\') : backslashes cs = 0 := by
  cases cs using List.reverseRecOn with
  | nil => rfl
  | append_singleton cs c => rw [backslashes_concat, if_neg (h c List.getLast?_concat)]

/-- Behind an even run the next one is counted anew. -/
theorem odd_backslashes_append (hm : Even (backslashes more)) (cs : Text) :
    Odd (backslashes (more ++ cs)) ↔ Odd (backslashes cs) := by
  induction cs using List.reverseRecOn with
  | nil =>
      rw [List.append_nil]
      exact iff_of_false (Nat.not_odd_iff_even.mpr hm) (by decide)
  | append_singleton cs c ih =>
      rw [← List.append_assoc, backslashes_concat, backslashes_concat]
      split
      next => rw [Nat.odd_add_one, Nat.odd_add_one, ih]
      next => rfl

theorem even_backslashes_concat (hc : c ≠ '\\') (cs : Text) : Even (backslashes (cs ++ [c])) := by
  rw [backslashes_concat, if_neg hc]
  exact Even.zero

theorem even_backslashes_pair (c : Char) : Even (backslashes ['\\', c]) := by
  by_cases hc : c = '\\'
  · subst c
    decide
  · exact even_backslashes_concat hc ['\\']

theorem odd_backslashes_plain (hc : c ≠ '\\') (cs : Text) :
    Odd (backslashes (c :: cs)) ↔ Odd (backslashes cs) :=
  odd_backslashes_append (even_backslashes_concat hc []) cs

theorem odd_backslashes_pair (c : Char) (cs : Text) :
    Odd (backslashes ('\\' :: c :: cs)) ↔ Odd (backslashes cs) :=
  odd_backslashes_append (even_backslashes_pair c) cs

theorem odd_backslashes_escape (h : IsEscape kept rest (letter :: more) points) (cs : Text) :
    Odd (backslashes ('\\' :: letter :: (more ++ cs))) ↔ Odd (backslashes cs) := by
  have heven : Even (backslashes ('\\' :: letter :: more)) := by
    cases more using List.reverseRecOn with
    | nil => exact even_backslashes_pair letter
    | append_singleton more c =>
        have hc := (h.mem_more c (List.mem_append_right _ (List.mem_singleton_self c))).1
        exact even_backslashes_concat hc ('\\' :: letter :: more)
  exact odd_backslashes_append heven cs

theorem paired_of_even (h : Even (backslashes cs)) : Paired cs := by
  rw [← Nat.not_odd_iff_even] at h
  induction cs using taken.induct with
  | case1 c cs ih => exact .escape c (ih fun ho => h ((odd_backslashes_pair c cs).mpr ho))
  | case2 c cs hn ih =>
      have hc : c ≠ '\\' := by
        rintro rfl
        cases cs with
        | nil => exact h (by decide)
        | cons d cs => exact hn d cs rfl rfl
      exact .plain hc (ih fun ho => h ((odd_backslashes_plain hc cs).mpr ho))
  | case3 => exact .nil

theorem backslashes_encode (cs : Text) : backslashes (encode cs) = backslashes cs := by
  induction cs using List.reverseRecOn with
  | nil => rfl
  | append_singleton cs c ih =>
      rw [encode, List.flatMap_append, List.flatMap_singleton, backslashes_concat]
      by_cases hc : c.toNat < 0x100
      · rw [encodeChar_eq hc, backslashes_concat]
        exact congrArg (fun n => if c = '\\' then n + 1 else 0) ih
      · obtain ⟨u, digits, he, -, hu, hi⟩ := exists_encodeChar (Nat.le_of_not_lt hc)
        have hn : c ≠ '\\' := by
          rintro rfl
          exact hc (by decide)
        rw [if_neg hn, he]
        apply backslashes_eq_zero
        intro d hd
        rw [List.getLast?_append_of_ne_nil _ (List.cons_ne_nil _ _), List.getLast?_cons_cons] at hd
        rcases List.mem_cons.mp (List.mem_of_getLast? hd) with rfl | hd
        · exact hu
        · exact ((hi verbatim []).mem_more d hd).1

theorem map_eq_error_iff {α β ε : Type} {f : α → β} {x : Except ε α} {d : ε} :
    x.map f = .error d ↔ x = .error d := by
  cases x <;> simp [Except.map]

theorem reason_of_decodeEscape (h : decodeEscape place letter cs = .error e) :
    e.reason ≠ .loneBackslash := by
  unfold decodeEscape at h
  cases hs : simple? letter with
  | some ps => simp [hs] at h
  | none =>
      cases hw : hexWidth? letter with
      | some width =>
          simp only [hs, hw] at h
          split_ifs at h <;> obtain rfl := Except.error.inj h <;> simp
      | none =>
          cases ho : octalValue? letter with
          | some d => simp [hs, hw, ho] at h
          | none =>
              simp only [hs, hw, ho] at h
              split_ifs at h
              split at h
              next => split_ifs at h <;> obtain rfl := Except.error.inj h <;> simp
              next =>
                obtain rfl := Except.error.inj h
                simp

theorem exists_name (h : named? names cs = some (points, used)) :
    ∃ name rest, cs = '{' :: (name ++ '}' :: rest) ∧ used = ('{' :: (name ++ ['}'])).length := by
  unfold named? at h
  split at h
  next cs =>
    obtain ⟨name, rest, rfl, hname, -, -, hr⟩ := exists_span (· ≠ '}') cs
    simp only [hname] at h
    split_ifs at h with hlt
    obtain ⟨point, -, he⟩ := Option.map_eq_some_iff.mp h
    obtain ⟨-, rfl⟩ := Prod.mk.inj he
    cases rest with
    | nil => simp at hlt
    | cons c rest =>
        obtain rfl : c = '}' := by simpa using hr c rfl
        exact ⟨name, rest, rfl, by simp⟩
  next => contradiction

theorem named?_none (cs : Text) : named? (fun _ => none) cs = none := by
  unfold named?
  split
  next => exact ite_self none
  next => rfl

theorem decodeNamed_none (place : Nat) (cs : Text) :
    decodeNamed (fun _ => none) place cs = decodeFrom place cs := by
  fun_induction decodeFrom place cs with
  | case1 => rw [decodeNamed]
  | case2 => rw [decodeNamed]
  | case3 place letter cs e he => simp [decodeNamed, named?_none, he]
  | case4 place letter cs points used he ih => simp [decodeNamed, named?_none, he, ih]
  | case5 place c cs hlone hesc ih =>
      rw [decodeNamed, ih]
      · exact hlone
      · exact hesc

/-- A single backslash is left over only where an odd run of them ends the text, whatever names there
are. -/
theorem odd_of_decodeNamed (h : decodeNamed names place cs = .error e)
    (he : e.reason = .loneBackslash) : Odd (backslashes cs) := by
  fun_induction decodeNamed names place cs with
  | case1 => contradiction
  | case2 => decide
  | case3 place letter cs points used hd ih =>
      obtain ⟨hl, hd⟩ := Option.ite_none_right_eq_some.mp hd
      obtain ⟨name, rest, rfl, rfl⟩ := exists_name hd
      have hcs : '{' :: (name ++ '}' :: rest) = '{' :: (name ++ ['}']) ++ rest := by simp
      have hbrace : Even (backslashes ('\\' :: letter :: '{' :: (name ++ ['}']))) :=
        even_backslashes_concat (by decide) ('\\' :: letter :: '{' :: name)
      rw [hcs, List.drop_left] at h ih
      rw [hcs]
      exact (odd_backslashes_append hbrace rest).mpr (ih (map_eq_error_iff.mp h))
  | case4 place letter cs _ d hd =>
      obtain rfl := Except.error.inj h
      exact absurd he (reason_of_decodeEscape hd)
  | case5 place letter cs _ points used hd ih =>
      obtain ⟨more, rest, rfl, rfl, hi⟩ := exists_isEscape hd
      rw [List.drop_left] at h ih
      exact (odd_backslashes_escape hi rest).mpr (ih (map_eq_error_iff.mp h))
  | case6 place c cs hlone hesc ih =>
      have hc : c ≠ '\\' := by
        rintro rfl
        cases cs with
        | nil => exact hlone rfl rfl
        | cons d cs => exact hesc d cs rfl rfl
      exact (odd_backslashes_plain hc cs).mpr (ih (map_eq_error_iff.mp h))

theorem reason_of_decodeNamed (hb : Even (backslashes cs))
    (h : decodeNamed names place (encode cs) = .error e) : e.reason ≠ .loneBackslash := by
  intro he
  have ho := odd_of_decodeNamed h he
  rw [backslashes_encode] at ho
  exact Nat.not_odd_iff_even.mpr hb ho

theorem reason_of_unescape (hb : Even (backslashes cs)) (h : unescape cs = .error e) :
    e.reason ≠ .loneBackslash :=
  reason_of_decodeNamed hb ((decodeNamed_none 0 _).trans h)

theorem even_backslashes_of_literalBody {body : Text} (h : LiteralBody body) :
    Even (backslashes body) := by
  have hq : quotedEnd (· = '"') (body ++ ['"']) 0 = some (0 + (body.length + 1)) := by
    rw [quotedEnd, List.drop_zero, h.quotedLength []]
    rfl
  have he := (quotedEnd_eq_some_iff.mp hq).1.even
  rwa [Nat.zero_add, Nat.add_sub_cancel, List.take_left, List.drop_zero] at he

/-- Reading a text may fail for an escape, but never for a backslash that stands alone. -/
theorem reason_of_tokenize {text : Text} (h : tokenize text = .error (.undecodable e)) :
    e.reason ≠ .loneBackslash := by
  obtain ⟨row, before, rest, fault, -, hf, he⟩ := exists_fault_of_tokenize h
  cases hf with
  | unknown | letter | unclosed | longInteger => simp [Lexer.error] at he
  | undecodable rest hb hv =>
      obtain rfl := Error.undecodable.inj he
      exact reason_of_unescape (even_backslashes_of_literalBody hb) hv

/-- The search for the end of a literal finds the least place where it could end, and finds none if
there is no such place. In the body each backslash has taken a character with it, so that decoding,
if it fails, does not do so for a backslash that is left over. -/
theorem quotedEnd_isLeast (quote : Char) (text : Text) (start : Nat) :
    (∀ stop, quotedEnd (· = quote) text start = some stop ↔
      IsLeast {stop | EndsAt quote text start stop} stop) ∧
    (quotedEnd (· = quote) text start = none ↔ ∀ stop, ¬ EndsAt quote text start stop) ∧
    ∀ stop body, quotedEnd (· = quote) text start = some stop →
      body = (text.take (stop - 1)).drop start →
      Paired body ∧ (∀ e, unescape body = .error e → e.reason ≠ .loneBackslash) ∧
      ∀ names e, decodeNamed names 0 (encode body) = .error e → e.reason ≠ .loneBackslash := by
  refine ⟨fun stop => quotedEnd_eq_some_iff, quotedEnd_eq_none_iff, ?_⟩
  rintro stop body h rfl
  have heven := (quotedEnd_eq_some_iff.mp h).1.even
  exact ⟨paired_of_even heven, fun e => reason_of_unescape heven,
    fun names e => reason_of_decodeNamed heven⟩

/-- The letter of the last escape has no digits, and the backslashes behind it are a pair. -/
theorem quotedEnd_of_truncated :
    ∃ (text body : Text) (e : Escape.Error),
      body = ['\\', '€', '\\', '"', '\\', 'x', '\\', '\\'] ∧
      text = '"' :: (body ++ ['"', '"']) ∧ quotedEnd (· = '"') text 1 = some 10 ∧
      IsLeast {stop | EndsAt '"' text 1 stop} 10 ∧ body = (text.take 9).drop 1 ∧ Paired body ∧
      unescape body = .error e ∧ e.reason ≠ .loneBackslash := by
  let body : Text := ['\\', '€', '\\', '"', '\\', 'x', '\\', '\\']
  let text : Text := '"' :: (body ++ ['"', '"'])
  have hs : quotedEnd (· = '"') text 1 = some 10 := rfl
  have he : unescape body = .error ⟨9, 10, .truncated 'x' 2⟩ := by with_unfolding_all rfl
  obtain ⟨hleast, -, hbody⟩ := quotedEnd_isLeast '"' text 1
  obtain ⟨hp, hr, -⟩ := hbody 10 body hs rfl
  exact ⟨text, body, _, rfl, rfl, hs, (hleast 10).mp hs, rfl, hp, he, hr _ he⟩

end Sigil.Literal
