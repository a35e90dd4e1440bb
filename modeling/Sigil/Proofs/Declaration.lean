import Sigil.Proofs.MaximalMunch
import Sigil.Proofs.Progress
import Sigil.Proofs.RoundTrip

namespace Sigil

/-- The instances of a type that can be made, in however many steps. -/
inductive Punctuation.Makes (p : Punctuation) : Instance → Prop
  | build {placement : Option Placement} {i : Instance} (h : Instance.build p placement = .ok i) :
      Makes p i
  | parse {s t : Stream} {i : Instance} (h : p.parse s = .ok (i, t)) : Makes p i
  | clone {i j : Instance} (hi : Makes p i) (h : i.clone = .ok j) : Makes p j
  | copy {i j : Instance} (hi : Makes p i) (h : i.copy = .ok j) : Makes p j

variable {p : Punctuation} {i j : Instance} {e : Error} {serial : Nat} {name : String}
  {symbol : Text} {features : Features} {module : String} {placement : Placement}

namespace Instance

section

variable (hl : i.locations.length = i.type.length)
include hl

theorem clone_eq : i.clone =
    if i.type.features.clone then .ok i else .error (.absentFromInstance i.type.name "clone") := by
  rw [clone, require, build_of_length hl]
  cases i.type.features.clone <;> rfl

theorem copy_eq : i.copy =
    if i.type.features.clone then .ok i
    else .error (.immutableAssign i.type.name "_locations") := by
  rw [copy, clone_eq hl]
  cases i.type.features.clone <;> rfl

theorem eq_of_clone (h : i.clone = .ok j) : j = i := by
  rw [clone_eq hl] at h
  split at h
  next => exact (Except.ok.inj h).symm
  next => simp at h

theorem eq_of_copy (h : i.copy = .ok j) : j = i := by
  rw [copy_eq hl] at h
  split at h
  next => exact (Except.ok.inj h).symm
  next => simp at h

theorem printPunct_eq (out : Output) :
    out.printPunct i.type.symbol i.locations = .ok (out ++ i.printed) := if_pos hl.symm

theorem toSource_printed : Output.toSource i.printed = i.type.symbol := by
  have hs : Output.toSource ([i].flatMap printed) = _ :=
    Output.toSource_printed (by simpa using hl)
  simpa [List.intercalate] using hs

theorem toSource_eq (hf : i.type.features.printing = true) : i.toSource = .ok i.type.symbol := by
  simp [toSource, require, hf, toTokens_eq hl hf, toSource_printed hl, bind, Except.bind, pure,
    Except.pure]

end

/-- What is no location and no right number of them is refused, for its type or for its number. -/
theorem build_error (h : build p (some placement) = .error e) :
    e = .strayLocation ∨ (∃ given, e = .notLocations given) ∨
      ∃ n : Nat, n ≠ p.length ∧ e = .locationCount p.length n := by
  have he : placement.locations p.length = .error e := by
    rw [build, Option.getD_some] at h
    cases hl : placement.locations p.length <;> simp [hl, Except.map] at h
    rw [h]
  cases placement with
  | one l => simp [Placement.locations] at he
  | other given => exact .inr (.inl ⟨given, (Except.error.inj he).symm⟩)
  | many given =>
      rw [Placement.locations] at he
      split at he
      next hn =>
        split at he
        next => simp at he
        next => exact .inl (Except.error.inj he).symm
      next hn => exact .inr (.inr ⟨given.length, by simpa using hn, (Except.error.inj he).symm⟩)

end Instance

namespace Punctuation

theorem Makes.length (h : p.Makes i) : i.type = p ∧ i.locations.length = p.length := by
  induction h with
  | build h => exact Instance.length_of_build h
  | parse h =>
      obtain ⟨ls, -, hb⟩ := parse_ok h
      exact Instance.length_of_build hb
  | clone _ h ih =>
      obtain ⟨rfl, hl⟩ := ih
      rw [Instance.eq_of_clone hl h]
      exact ⟨rfl, hl⟩
  | copy _ h ih =>
      obtain ⟨rfl, hl⟩ := ih
      rw [Instance.eq_of_copy hl h]
      exact ⟨rfl, hl⟩

theorem declare_error (h : declare serial name symbol features module = .error e) :
    e.isDeclaration = true ∧ e.flaw? = none := by
  unfold declare at h
  split at h
  next =>
    split at h
    next d hd =>
      obtain rfl := Except.error.inj h
      by_cases hs : symbol = []
      · subst hs
        obtain rfl : .empty = d := Except.error.inj hd
        exact ⟨rfl, rfl⟩
      · obtain ⟨before, c, after, rfl, -, -, rfl⟩ := Symbol.strict_error hs hd
        have hr : resolveIndex (before ++ c :: after).length before.length = some before.length :=
          resolveIndex_eq (by simp)
        exact ⟨rfl, if_pos (by rw [hr]; rfl)⟩
    next atoms ha =>
      obtain ⟨-, -, rfl⟩ := Symbol.strict_ok_iff.mp ha
      simp at h
  next =>
    obtain rfl := Except.error.inj h
    exact ⟨rfl, rfl⟩

/-- A declaration fails for its name or its symbol only, never because the two ways of splitting
disagree. All instances of a type that was declared have one location for each atom, however they
were made, and copies have the same ones; so they can always be printed, and are then the symbol
again. A single location serves all atoms and several have to be exactly as many; nothing else is
taken. -/
theorem makes_of_declare (serial : Nat) (name : String) (symbol : Text) (features : Features)
    (module : String) :
    declare serial name symbol features module ≠ .error .countsDisagree ∧
      ∀ p, declare serial name symbol features module = .ok p →
        Symbol.strict symbol = .ok p.atoms ∧ p.atoms.length = p.length ∧
        (Symbol.lenient symbol).length = p.length ∧
        (∀ i, p.Makes i →
          i.locations.length = p.length ∧ (∀ j, i.clone = .ok j ∨ i.copy = .ok j → j = i) ∧
          (features.clone = true → i.clone = .ok i ∧ i.copy = .ok i) ∧
          (∀ out, Output.printPunct out symbol i.locations = .ok (out ++ i.printed)) ∧
          (features.printing = true →
            (∀ out, i.toTokens out = .ok (out ++ i.printed)) ∧ i.toSource = .ok symbol)) ∧
        (∃ i, Instance.build p none = .ok i) ∧
        (∀ placement i, Instance.build p (some placement) = .ok i ↔ i.type = p ∧
          ((∃ l, placement = .one l ∧ i.locations = List.replicate p.length l) ∨
            placement = .many (i.locations.map some) ∧ i.locations.length = p.length)) ∧
        ∀ placement e, Instance.build p (some placement) = .error e →
          e = .strayLocation ∨ (∃ given, e = .notLocations given) ∨
            ∃ n : Nat, n ≠ p.length ∧ e = .locationCount p.length n := by
  refine ⟨?_, ?_⟩
  · intro h
    have hd := (declare_error h).1
    contradiction
  · intro p h
    obtain ⟨rfl, rfl⟩ := declare_ok h
    refine ⟨p.strict_symbol, by rw [p.symbol_spec.2.2]; rfl, rfl, ?_, ⟨_, rfl⟩,
      fun _ _ => Instance.build_ok_iff, fun _ _ => Instance.build_error⟩
    intro i hi
    obtain ⟨rfl, hl⟩ := hi.length
    refine ⟨hl, ?_, ?_, Instance.printPunct_eq hl, ?_⟩
    · rintro j (hj | hj)
      · exact Instance.eq_of_clone hl hj
      · exact Instance.eq_of_copy hl hj
    · intro hc
      rw [Instance.clone_eq hl, Instance.copy_eq hl, hc]
      exact ⟨rfl, rfl⟩
    · intro hf
      exact ⟨Instance.toTokens_eq hl hf, Instance.toSource_eq hl hf⟩

theorem makes_of_declare_arrow :
    ∃ p i, declare 0 "Arrow" ['<', '=', '>'] {} "arrows" = .ok p ∧
      Instance.build p none = .ok i ∧ i.locations.length = 2 ∧ i.clone = .ok i ∧
      i.toSource = .ok ['<', '=', '>'] ∧
      ∃ e, Instance.build p (some (.many [])) = .error e ∧
        (e = .strayLocation ∨ (∃ given, e = .notLocations given) ∨
          ∃ n : Nat, n ≠ p.length ∧ e = .locationCount p.length n) := by
  have hn : Text.isIdentifier "Arrow".toList = true := by cbv
  have hs : Symbol.strict ['<', '=', '>'] = .ok [⟨['<', '=']⟩, ⟨['>']⟩] := by cbv
  obtain ⟨p, hp, ha⟩ := exists_declare hn hs 0 {} "arrows"
  obtain ⟨-, h⟩ := makes_of_declare 0 "Arrow" ['<', '=', '>'] {} "arrows"
  obtain ⟨-, hl, -, hi, ⟨i, hb⟩, hok, herror⟩ := h p hp
  have hl : p.length = 2 := by rw [← hl, ha]; rfl
  obtain ⟨hlen, -, hclone, -, hprint⟩ := hi i (.build hb)
  refine ⟨p, i, hp, hb, hlen.trans hl, (hclone rfl).1, (hprint rfl).2, ?_⟩
  cases he : Instance.build p (some (.many [])) with
  | error e => exact ⟨e, rfl, herror _ e he⟩
  | ok j =>
      obtain ⟨-, ⟨l, hj, -⟩ | ⟨hj, hj'⟩⟩ := (hok _ j).mp he
      · simp at hj
      · have hz : j.locations = [] := by simpa using (Placement.many.inj hj).symm
        rw [hz, hl] at hj'
        contradiction

end Punctuation

end Sigil
