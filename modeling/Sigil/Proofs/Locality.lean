import Sigil.Proofs.MaximalMunch

namespace Sigil.Symbol

/-- A text cut into its runs of punctuation characters: a run goes on as long as it can, and what is
no punctuation belongs to none. -/
inductive Cut : Text → List Text → Prop
  | nil : Cut [] []
  | stray {c : Char} {cs : Text} {rs : List Text} (hc : isPunctuation c = false) (h : Cut cs rs) :
      Cut (c :: cs) rs
  | run {r rest : Text} {rs : List Text} (hn : r ≠ []) (hr : ∀ c ∈ r, isPunctuation c = true)
      (he : ∀ c ∈ rest.head?, isPunctuation c = false) (h : Cut rest rs) :
      Cut (r ++ rest) (r :: rs)

/-- The runs of punctuation characters of a text, from left to right. -/
def runs : Text → List Text
  | [] => []
  | c :: cs =>
    if isPunctuation c then
      (c :: cs.takeWhile isPunctuation) :: runs (cs.dropWhile isPunctuation)
    else runs cs
termination_by cs => cs.length
decreasing_by
  · exact Nat.lt_succ_of_le (List.dropWhile_suffix _).length_le
  · exact Nat.lt_succ_self _

variable {a : Atom} {cs r rest text : Text} {rs : List Text}

theorem cut_runs (text : Text) : Cut text (runs text) := by
  fun_induction runs text with
  | case1 => exact .nil
  | case2 c cs hc ih =>
      have hcut := Cut.run (r := c :: cs.takeWhile isPunctuation) (List.cons_ne_nil _ _) ?_ ?_ ih
      · rwa [List.cons_append, List.takeWhile_append_dropWhile] at hcut
      · exact List.forall_mem_cons.mpr ⟨hc, fun d hd => List.mem_takeWhile_imp hd⟩
      · intro d hd
        have h := List.head?_dropWhile_not isPunctuation cs
        rwa [Option.mem_def.mp hd] at h
  | case3 c cs hc ih => exact .stray (Bool.not_eq_true _ ▸ hc) ih

theorem Cut.eq_runs (h : Cut text rs) : rs = runs text := by
  induction h with
  | nil => rw [runs]
  | stray hc _ ih => rw [runs, if_neg (by simp [hc]), ih]
  | @run r rest rs hn hr he _ ih =>
      obtain ⟨c, more, rfl⟩ := List.exists_cons_of_ne_nil hn
      obtain ⟨hc, hm⟩ := List.forall_mem_cons.mp hr
      have hrest : rest.takeWhile isPunctuation = [] ∧ rest.dropWhile isPunctuation = rest := by
        cases rest with
        | nil => exact ⟨rfl, rfl⟩
        | cons d rest => simp [he d rfl]
      rw [List.cons_append, runs, if_pos hc, List.takeWhile_append_of_pos hm,
        List.dropWhile_append_of_pos hm, hrest.1, hrest.2, List.append_nil, ih]

/-- What is made of punctuation does not reach out of a run. -/
theorem isPrefix_of_append {cut : Text} (hc : ∀ c ∈ cut, isPunctuation c = true)
    (he : ∀ c ∈ rest.head?, isPunctuation c = false) (h : cut <+: r ++ rest) : cut <+: r := by
  rcases List.prefix_or_prefix_of_prefix h (List.prefix_append r rest) with hr | ⟨beyond, rfl⟩
  · exact hr
  · cases beyond with
    | nil => simp
    | cons c beyond =>
        obtain ⟨more, rfl, -⟩ := List.cons_prefix_iff.mp ((List.prefix_append_right_inj r).mp h)
        have hn := he c rfl
        rw [hc c (by simp)] at hn
        contradiction

theorem longest?_append (he : ∀ c ∈ rest.head?, isPunctuation c = false)
    (h : Atom.longest? r = some a) : Atom.longest? (r ++ rest) = some a := by
  obtain ⟨ha, hp, hl⟩ := Atom.longest?_eq_some_iff.mp h
  apply Atom.longest?_eq_some_iff.mpr
  refine ⟨ha, hp.trans (List.prefix_append r rest), ?_⟩
  intro b hb hb'
  exact hl b hb (isPrefix_of_append (fun c => Atom.isPunctuation_of_mem hb) he hb')

theorem lenient_append (hr : ∀ c ∈ r, isPunctuation c = true)
    (he : ∀ c ∈ rest.head?, isPunctuation c = false) :
    lenient (r ++ rest) = lenient r ++ lenient rest := by
  fun_induction lenient r with
  | case1 => rfl
  | case2 c cs hn ih =>
      obtain ⟨a, ha⟩ := Atom.exists_longest? (hr c List.mem_cons_self) cs
      simp [hn] at ha
  | case3 c cs a ha ih =>
      -- The atom ends within the run, and so does the scan go on there.
      have hle : a.length - 1 ≤ cs.length := by
        have hl := (Atom.longest?_some ha).2.length_le
        rw [List.length_cons] at hl
        exact Nat.sub_le_of_le_add hl
      have hl : lenient (c :: (cs ++ rest)) = _ := lenient_of_longest? (longest?_append he ha)
      rw [List.cons_append, hl, List.drop_append_of_le_length hle, List.cons_append, ih]
      exact fun x hx => hr x (List.mem_cons_of_mem _ (List.mem_of_mem_drop hx))

theorem Cut.lenient_eq (h : Cut text rs) : lenient text = rs.flatMap lenient := by
  induction h with
  | nil => rw [lenient]; rfl
  | stray hc _ ih => rw [lenient, Atom.longest?_eq_none_iff.mpr hc]; exact ih
  | run _ hr he _ ih => rw [lenient_append hr he, ih, List.flatMap_cons]

theorem Cut.mem (h : Cut text rs) (hr : r ∈ rs) : r ≠ [] ∧ ∀ c ∈ r, isPunctuation c = true := by
  induction h with
  | nil => simp at hr
  | stray _ _ ih => exact ih hr
  | run hn hall _ _ ih =>
      rcases List.mem_cons.mp hr with rfl | hr
      · exact ⟨hn, hall⟩
      · exact ih hr

/-- Passing over stray characters splits a text as if each of its runs of punctuation stood alone.
Every such run is cut into atoms that spell it, so no atom reaches over a stray character, and the
atoms cover the punctuation characters of the text, each of them once. -/
theorem lenient_eq_flatten_strict (text : Text) :
    (∀ rs, Cut text rs ↔ rs = runs text) ∧
    (∃ parts, lenient text = parts.flatten ∧
      List.Forall₂ (fun run as => strict run = .ok as ∧ as.flatMap Atom.text = run)
        (runs text) parts) ∧
    covered text = text.countP isPunctuation := by
  refine ⟨fun rs => ⟨Cut.eq_runs, fun h => h ▸ cut_runs text⟩,
    ⟨(runs text).map lenient, ?_, ?_⟩, ?_⟩
  · rw [(cut_runs text).lenient_eq, List.flatMap_def]
  · rw [List.forall₂_map_right_iff]
    apply List.forall₂_same.mpr
    intro run hrun
    obtain ⟨hn, hr⟩ := (cut_runs text).mem hrun
    exact ⟨strict_ok_iff.mpr ⟨hn, hr, rfl⟩, flatMap_text_lenient hr⟩
  · rw [covered, flatMap_text_lenient_eq_filter, List.countP_eq_length_filter]

-- The two characters would be one atom if nothing stood between them.
example : lenient ['<', '$', '='] = [⟨['<']⟩, ⟨['=']⟩] := by cbv

end Sigil.Symbol
