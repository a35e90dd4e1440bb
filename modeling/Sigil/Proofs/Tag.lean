import Sigil.Error
import Sigil.Proofs.Characters

/-!
The tag of an error tells its title. Lower case alone forgets which letters were capitals, but each
capital behind the first character has left a hyphen in front of it, and a title has no hyphens of
its own.
-/

namespace Sigil

namespace Text

/-- Drops the hyphens and makes a capital of each character that follows one, and of the first
character where `start` is set. -/
def camelFrom (start : Bool) : Text → Text
  | [] => []
  | c :: cs =>
    if c = '-' then camelFrom true cs
    else (if start then upperChar c else [c]) ++ camelFrom false cs

def camel (cs : Text) : Text := camelFrom true cs

end Text

/-- Letters and digits of ASCII, with a capital in front. -/
def Error.IsTitle (cs : Text) : Prop :=
  cs.head?.any Char.isUpper = true ∧ ∀ c ∈ cs, c.isAlphanum = true

namespace Text

variable {c : Char} {cs : Text}

theorem toNat_of_isAlphanum (h : c.isAlphanum = true) : 48 ≤ c.toNat ∧ c.toNat < 0x80 := by
  have hp : isWordPart c = true := by simp [isWordPart, h]
  have hc := toNat_of_isWordPart hp
  omega

theorem isAlphanum_toLower (h : c.isAlphanum = true) : c.toLower.isAlphanum = true := by
  by_cases hc : c.isUpper = true
  · simp [Char.isAlphanum, Char.isAlpha, hc]
  · rwa [Char.toLower_eq_of_not_isUpper hc]

theorem toUpper_of_isUpper (h : c.isUpper = true) : c.toUpper = c :=
  Char.toUpper_eq_of_not_isLower (Char.not_isLower_of_isUpper h)

theorem lowerAfter_of_ascii (before : Text) (h : ∀ c ∈ cs, c.toNat < 0x80) :
    lowerAfter before cs = cs.map Char.toLower := by
  induction cs generalizing before with
  | nil => rfl
  | cons c cs ih =>
      obtain ⟨hc, hcs⟩ := List.forall_mem_cons.mp h
      rw [lowerAfter, lowerChar, if_pos hc, ih _ hcs, List.map_cons, List.singleton_append]

theorem hyphenate_cons_cons (c d : Char) (cs : Text) : hyphenate (c :: d :: cs) =
    c :: (if d.isUpper then '-' :: hyphenate (d :: cs) else hyphenate (d :: cs)) := by
  rw [hyphenate, List.flatMap_cons, hyphenate]
  split <;> rfl

theorem mem_hyphenate (h : c ∈ hyphenate cs) : c = '-' ∨ c ∈ cs := by
  cases cs with
  | nil => contradiction
  | cons d cs =>
      rcases List.mem_cons.mp h with rfl | h
      · exact .inr List.mem_cons_self
      · obtain ⟨e, he, hc⟩ := List.mem_flatMap.mp h
        have hce : c = '-' ∨ c = e := by split at hc <;> simp_all
        rcases hce with rfl | rfl
        · exact .inl rfl
        · exact .inr (List.mem_cons_of_mem d he)

theorem kebab_eq_map (h : ∀ c ∈ cs, c.isAlphanum = true) :
    kebab cs = (hyphenate cs).map Char.toLower := by
  apply lowerAfter_of_ascii
  intro c hc
  rcases mem_hyphenate hc with rfl | hc
  · decide
  · exact (toNat_of_isAlphanum (h c hc)).2

theorem camelFrom_hyphen (start : Bool) (cs : Text) :
    camelFrom start ('-' :: cs) = camelFrom true cs := if_pos rfl

theorem camelFrom_toLower (hc : c.isAlphanum = true) (start : Bool) (cs : Text) :
    camelFrom start (c.toLower :: cs) =
      (if start then c.toUpper else c.toLower) :: camelFrom false cs := by
  have hl := toNat_of_isAlphanum (isAlphanum_toLower hc)
  have hn : c.toLower ≠ '-' := by
    intro he
    rw [he] at hl
    exact absurd hl.1 (by decide)
  rw [camelFrom, if_neg hn, upperChar, if_pos hl.2, Char.toUpper_toLower_eq_toUpper]
  cases start <;> rfl

/-- The hyphen in front of it marks what was a capital, so only the first character depends on where
the reading starts. -/
theorem camelFrom_hyphenate (start : Bool) (h : ∀ d ∈ c :: cs, d.isAlphanum = true) :
    camelFrom start ((hyphenate (c :: cs)).map Char.toLower) =
      (if start then c.toUpper else c.toLower) :: cs := by
  -- For the rest, `start` is set just where a hyphen comes first, so both values of it are needed.
  induction cs generalizing start c with
  | nil => exact camelFrom_toLower (h c List.mem_cons_self) start []
  | cons d cs ih =>
      obtain ⟨hc, hd⟩ := List.forall_mem_cons.mp h
      rw [hyphenate_cons_cons, List.map_cons, camelFrom_toLower hc]
      by_cases hu : d.isUpper = true
      · have hhyphen : '-'.toLower = '-' := rfl
        rw [if_pos hu, List.map_cons, hhyphen, camelFrom_hyphen, ih _ hd, if_pos rfl,
          toUpper_of_isUpper hu]
      · rw [if_neg hu, ih _ hd, if_neg Bool.false_ne_true, Char.toLower_eq_of_not_isUpper hu]

end Text

namespace Error

open Text

variable {s t : String} {cs : Text}

theorem isUpper_of_mem_kebab (h : IsTitle cs) : ∀ c ∈ kebab cs, c.isUpper = false := by
  rw [kebab_eq_map h.2, List.forall_mem_map]
  exact fun c _ => Char.isUpper_toLower_eq_false c

theorem camel_kebab (h : IsTitle cs) : camel (kebab cs) = cs := by
  cases cs with
  | nil => rfl
  | cons c cs =>
      have hc : c.isUpper = true := h.1
      rw [camel, kebab_eq_map h.2, camelFrom_hyphenate true h.2, if_pos rfl, toUpper_of_isUpper hc]

theorem kebab_of_tagOf (h : tagOf s = tagOf t) : kebab s.toList = kebab t.toList := by
  have hl := congrArg String.toList h
  simpa [tagOf] using hl

theorem eq_of_tagOf (hs : IsTitle s.toList) (ht : IsTitle t.toList) (h : tagOf s = tagOf t) :
    s = t := by
  apply String.toList_inj.mp
  calc
    s.toList = camel (kebab s.toList) := (camel_kebab hs).symm
    _ = camel (kebab t.toList) := congrArg camel (kebab_of_tagOf h)
    _ = t.toList := camel_kebab ht

theorem isTitle_of_title? {e : Error} (h : e.title? = some t) : IsTitle t.toList := by
  unfold title? at h
  split at h
  case h_9 => contradiction
  all_goals
    obtain rfl := Option.some.inj h
    simp [IsTitle]

/-- A title can be read off its tag, though the tag has no capitals. So titles that differ have
different tags, and the errors that show the tag of a title are those that have the title. -/
theorem title_of_tag (ht : IsTitle t.toList) :
    (∀ c ∈ kebab t.toList, c.isUpper = false) ∧ camel (kebab t.toList) = t.toList ∧
      (∀ s : String, IsTitle s.toList → s ≠ t → tagOf s ≠ tagOf t) ∧
      ∀ e : Error, e.isReported = true → (e.tag = tagOf t ↔ e.title? = some t) := by
  refine ⟨isUpper_of_mem_kebab ht, camel_kebab ht, ?_, ?_⟩
  · intro s hs hne h
    exact hne (eq_of_tagOf hs ht h)
  · intro e he
    obtain ⟨s, hs⟩ := Option.isSome_iff_exists.mp he
    rw [tag, hs, Option.getD_some, Option.some.injEq]
    exact ⟨eq_of_tagOf (isTitle_of_title? hs) ht, congrArg tagOf⟩

theorem title_of_tag_of_capitals :
    IsTitle "UTF8Error".toList ∧ kebab "UTF8Error".toList = "u-t-f8-error".toList ∧
      (∀ c ∈ "u-t-f8-error".toList, c.isUpper = false) ∧
      camel "u-t-f8-error".toList = "UTF8Error".toList ∧
      IsTitle "Utf8Error".toList ∧ "Utf8Error" ≠ "UTF8Error" ∧
      tagOf "Utf8Error" ≠ tagOf "UTF8Error" ∧
      emptySymbol.isReported = true ∧ emptySymbol.tag ≠ tagOf "UTF8Error" := by
  have ht : IsTitle "UTF8Error".toList := by simp [IsTitle]
  have hs : IsTitle "Utf8Error".toList := by simp [IsTitle]
  have hk : kebab "UTF8Error".toList = "u-t-f8-error".toList := by cbv
  have hn : "Utf8Error" ≠ "UTF8Error" := by decide
  obtain ⟨hl, hc, hne, he⟩ := title_of_tag ht
  rw [hk] at hl hc
  exact ⟨ht, hk, hl, hc, hs, hn, hne _ hs hn, rfl, (he emptySymbol rfl).not.mpr (by decide)⟩

end Error

end Sigil
