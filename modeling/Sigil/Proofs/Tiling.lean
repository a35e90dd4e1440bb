import Sigil.Proofs.Lexer
import Sigil.Proofs.Relocation

namespace Sigil

open Text Lexer

variable {source : Source} {place : Nat → Location} {row column : Nat} {ending : Location}
  {cs : Text} {ls : List Text} {t : Token} {ts : List Token}

namespace Lexer

theorem Reads.slice (h : Reads place column cs ts) (ht : t ∈ ts) :
    ∃ n, t.location = place (column + n) ∧ t.text <+: cs.drop n := by
  obtain ⟨i, hi, rfl⟩ := List.getElem_of_mem ht
  obtain ⟨n, hn, hr⟩ := h.drop hi
  rw [List.drop_eq_getElem_cons hi] at hr
  refine ⟨n, ?_⟩
  cases hd : cs.drop n with
  | nil => simp [hd, trailing] at hn
  | cons c rest =>
      rw [hd] at hn hr
      obtain ⟨l, rest, us, rfl, -, -, ht⟩ := hr.cons_inv hn
      rw [(List.cons.inj ht).1]
      exact ⟨rfl, List.prefix_append (c :: l.more) rest⟩

theorem ReadsLines.slice (h : ReadsLines source row ending ls ts) (ht : t ∈ ts)
    (hk : t.kind ≠ .eof) : ∃ k n l, t.location = .inSource source (row + k) n ∧ ls[k]? = some l ∧
      t.text ≠ [] ∧ t.text <+: (stripReturns l).drop n := by
  induction h with
  | done => simp_all [Token.endOfInput]
  | line h hs ih =>
      rcases List.mem_append.mp ht with ht | ht
      · obtain ⟨n, hl, hp⟩ := h.slice ht
        rw [Nat.zero_add] at hl
        exact ⟨0, n, _, hl, rfl, (h.mem ht).2.1, hp⟩
      · obtain ⟨k, n, l, hl, hls, hn, hp⟩ := ih ht
        exact ⟨k + 1, n, l, by rw [hl, Nat.add_right_comm, Nat.add_assoc], hls, hn, hp⟩

theorem ReadsLines.location (h : ReadsLines source row ending ls ts) (ht : t ∈ ts) :
    t.location = ending ∨ ∃ k n, t.location = .inSource source (row + k) n := by
  induction h with
  | done row ending =>
      rw [List.mem_singleton.mp ht]
      exact .inl rfl
  | line h hs ih =>
      rcases List.mem_append.mp ht with ht | ht
      · obtain ⟨n, hl, -⟩ := h.slice ht
        exact .inr ⟨0, 0 + n, hl⟩
      · rcases ih ht with hl | ⟨k, n, hl⟩
        · exact .inr ⟨0, _, hl⟩
        · exact .inr ⟨k + 1, n, by rw [hl, Nat.add_right_comm, Nat.add_assoc]⟩

end Lexer

end Sigil
