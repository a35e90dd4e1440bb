import Sigil.CommandLine.Goals
import Sigil.Proofs.Characters

/-!
What a run prints, line by line. Names, tokens and quoted text hold neither tabs nor line ends, so
nothing that comes from a text to be checked can pass for a line of the report.
-/

namespace Sigil

open Text

def isPlain (c : Char) : Bool := c ≠ '\t' && c ≠ '\n'

/-- A text without tabs and line ends. -/
def Plain (s : String) : Prop := ∀ c ∈ s.toList, isPlain c = true

def CommandLine.unlines (ls : List String) : String := String.join (ls.map line)

/-- The lines that a run wrote, and what it wrote behind the last line end. -/
def CommandLine.Report.printed (r : Report) : List Text := r.out.toList.splitOn '\n'

/-- The run writes these lines and exits with this code. -/
structure CommandLine.Report.Gives (r : Report) (ls : List String) (code : Nat) : Prop where
  out : r.out = unlines ls
  ending : r.ending = .exit code

variable {s t : String} {ls ms : List String} {l : Location} {c : Char}
  {r : CommandLine.Report} {code : Nat} {e : Error} {friendly terminal : Bool}

theorem isPlain_of {p : Char → Bool} (hc : p c = true) (ht : p '\t' = false)
    (hn : p '\n' = false) : isPlain c = true := by
  simp only [isPlain, Bool.and_eq_true, decide_eq_true_eq]
  constructor
  · rintro rfl
    simp [ht] at hc
  · rintro rfl
    simp [hn] at hc

theorem isPlain_ofNat {n : Nat} (ht : n ≠ 9) (hn : n ≠ 10) : isPlain (Char.ofNat n) = true := by
  refine isPlain_of (p := fun c => c.toNat ≠ 9 && c.toNat ≠ 10) ?_ rfl rfl
  rw [Char.toNat_ofNat]
  split
  next => simp [ht, hn]
  next => rfl

theorem toNat_hexDigit {d : Nat} (hd : d < 16) : 48 ≤ (hexDigit d).toNat := by
  interval_cases d <;> decide

theorem isPlain_of_mem_hex {width n : Nat} (hc : c ∈ hex width n) : isPlain c = true := by
  induction width generalizing n with
  | zero => simp [hex] at hc
  | succ width ih =>
      rw [hex] at hc
      rcases List.mem_append.mp hc with hc | hc
      · exact ih hc
      · rw [List.mem_singleton.mp hc]
        refine isPlain_of (p := fun c => 48 ≤ c.toNat) ?_ rfl rfl
        exact decide_eq_true (toNat_hexDigit (Nat.mod_lt n (by decide)))

/-- What would not be plain is written as an escape. -/
theorem isPlain_of_mem_quotePoint {quote : Char} (hq : quote = '\'' ∨ quote = '"') {n : Nat}
    (hc : c ∈ quotePoint quote n) : isPlain c = true := by
  have hpair {pair : Text} (h : pair.all isPlain = true) (hc : c ∈ pair) : isPlain c = true :=
    List.all_eq_true.mp h c hc
  have hescape (letter : Char) (width : Nat) (hl : isPlain letter = true)
      (hc : c ∈ '\\' :: letter :: hex width n) : isPlain c = true := by
    rcases List.mem_cons.mp hc with rfl | hc
    · rfl
    · rcases List.mem_cons.mp hc with rfl | hc
      · exact hl
      · exact isPlain_of_mem_hex hc
  unfold quotePoint at hc
  split_ifs at hc with hquote htab hend hreturn
  · have hn : isPlain (Char.ofNat n) = true := by
      rcases hquote with rfl | rfl
      · rfl
      · rcases hq with rfl | rfl <;> rfl
    rcases List.mem_cons.mp hc with rfl | hc
    · rfl
    · rwa [List.mem_singleton.mp hc]
  · exact hpair rfl hc
  · exact hpair rfl hc
  · exact hpair rfl hc
  · rw [List.mem_singleton.mp hc]
    exact isPlain_ofNat htab hend
  · exact hescape 'x' 2 rfl hc
  · exact hescape 'u' 4 rfl hc
  · exact hescape 'U' 8 rfl hc

namespace Plain

theorem newline (h : Plain s) : '\n' ∉ s.toList := by
  intro hc
  have hn : isPlain '\n' = true := h _ hc
  contradiction

theorem newline_append (h : Plain s) (ht : t.toList.contains '\n' = false) :
    '\n' ∉ (t ++ s).toList := by
  rw [String.toList_append, List.mem_append, not_or]
  exact ⟨by simpa using ht, h.newline⟩

theorem of_all (h : s.toList.all isPlain = true) : Plain s := List.all_eq_true.mp h

theorem append (hs : Plain s) (ht : Plain t) : Plain (s ++ t) := by
  intro c hc
  rw [String.toList_append] at hc
  rcases List.mem_append.mp hc with hc | hc
  · exact hs c hc
  · exact ht c hc

theorem intercalate (hs : Plain s) (h : ∀ t ∈ ls, Plain t) : Plain (s.intercalate ls) := by
  intro c hc
  rw [String.toList_intercalate] at hc
  induction ls with
  | nil => simp [List.intercalate] at hc
  | cons t ls ih =>
      obtain ⟨ht, h⟩ := List.forall_mem_cons.mp h
      cases ls with
      | nil => exact ht c (by simpa using hc)
      | cons u ls =>
          rw [List.map_cons, List.map_cons, List.intercalate_cons_cons, List.append_assoc] at hc
          rcases List.mem_append.mp hc with hc | hc
          · exact ht c hc
          · rcases List.mem_append.mp hc with hc | hc
            · exact hs c hc
            · exact ih h hc

theorem ofList {cs : Text} (h : ∀ c ∈ cs, isBlank c = false) : Plain (String.ofList cs) := by
  intro c hc
  rw [String.toList_ofList] at hc
  exact isPlain_of (p := fun c => !isBlank c) (by simp [h c hc]) rfl rfl

theorem ofList_identifier {cs : Text} (h : isIdentifier cs = true) : Plain (String.ofList cs) := by
  cases cs with
  | nil => exact of_all rfl
  | cons d cs =>
      obtain ⟨hd, hcs⟩ := Bool.and_eq_true_iff.mp h
      intro c hc
      rw [String.toList_ofList] at hc
      rcases List.mem_cons.mp hc with rfl | hc
      · exact isPlain_of hd rfl rfl
      · exact isPlain_of (List.all_eq_true.mp hcs c hc) rfl rfl

theorem nat (n : Nat) : Plain (toString n) := by
  have hd : ∀ c ∈ Nat.toDigits 10 n, isBlank c = false := fun c hc =>
    isBlank_of_isWordPart (isWordPart_of_isDigit
      (Nat.isDigit_of_mem_toDigits (by decide) (by decide) hc))
  exact ofList hd

theorem int (n : Int) : Plain (toString n) := by
  cases n with
  | ofNat n => exact nat n
  | negSucc n => exact append (s := "-") (of_all rfl) (nat (n + 1))

theorem quotePoints (points : List Nat) : Plain (Text.quotePoints points) := by
  have hq : quoteMark points = '\'' ∨ quoteMark points = '"' := by
    rw [quoteMark]
    split
    next => exact .inr rfl
    next => exact .inl rfl
  have hmark : isPlain (quoteMark points) = true := by
    rcases hq with hq | hq <;> rw [hq] <;> rfl
  intro c hc
  rw [Text.quotePoints, String.toList_ofList, List.mem_append, List.mem_cons,
    List.mem_singleton] at hc
  rcases hc with (rfl | hc) | rfl
  · exact hmark
  · obtain ⟨n, -, hc⟩ := List.mem_flatMap.mp hc
    exact isPlain_of_mem_quotePoint hq hc
  · exact hmark

theorem render (v : Value) : Plain v.render := by
  cases v with
  | integer n => exact int n
  | text points => exact quotePoints points

theorem kind (k : TokenKind) : Plain k.name := by
  have hk : k.display.toList.all (fun c => c.toUpper.isUpper) = true := by cases k <;> rfl
  intro c hc
  rw [TokenKind.name, String.toUpper, String.toList_map] at hc
  obtain ⟨d, hd, rfl⟩ := List.mem_map.mp hc
  exact isPlain_of (List.all_eq_true.mp hk d hd) rfl rfl

theorem placeOf {path : Option Path} (hl : l.source = .string path) : Plain (Error.placeOf l) := by
  have hn : Error.placeOf l = l.named "<string>" := by
    rw [Error.placeOf, Location.render?, hl]
    rfl
  have hmark : Plain "'" := of_all rfl
  have hcolon : Plain ":" := of_all rfl
  have hname : Plain "<string>" := of_all rfl
  rw [hn, Location.named]
  exact (((((hmark.append hname).append hcolon).append (int _)).append hcolon).append
    (int _)).append hmark

theorem dump {t : Token} {path : Option Path} (ht : t.location.source = .string path) :
    Plain t.dump := by
  have hspace : Plain " " := of_all rfl
  exact (((kind t.kind).append hspace).append (render t.value)).append hspace |>.append
    (placeOf ht)

end Plain

namespace CommandLine

theorem unlines_append (ls ms : List String) : unlines (ls ++ ms) = unlines ls ++ unlines ms := by
  rw [← String.toList_inj]
  simp [unlines, String.toList_join]

theorem intercalate_concat_nil (x : Char) (ts : List Text) :
    [x].intercalate (ts ++ [[]]) = ts.flatMap (· ++ [x]) := by
  induction ts with
  | nil => rfl
  | cons t ts ih =>
      have hn : ts ++ [[]] ≠ [] := List.append_ne_nil_of_right_ne_nil _ (List.cons_ne_nil _ _)
      obtain ⟨u, us, hu⟩ := List.exists_cons_of_ne_nil hn
      rw [List.cons_append, List.flatMap_cons, ← ih, hu, List.intercalate_cons_cons]

namespace Report.Gives

theorem exit (code : Nat) : (Report.exit code).Gives [] code := ⟨rfl, rfl⟩

theorem abort (terminal : Bool) (s : String) : (abort terminal s).Gives [] 1 := ⟨rfl, rfl⟩

theorem after (h : r.Gives ms code) (ls : List String) (err : String) :
    (r.after (unlines ls) err).Gives (ls ++ ms) code := by
  refine ⟨?_, h.ending⟩
  rw [unlines_append, ← h.out]
  rfl

theorem handle (h : r.Gives ls code) : (handle friendly terminal r).Gives ls code := by
  rw [CommandLine.handle, h.ending]
  exact h

theorem printed_eq (h : r.Gives ls code) (hl : ∀ l ∈ ls, '\n' ∉ l.toList) :
    r.printed = ls.map String.toList ++ [[]] := by
  have ho : r.out.toList = ['\n'].intercalate (ls.map String.toList ++ [[]]) := by
    rw [h.out, unlines, String.toList_join, intercalate_concat_nil, List.flatMap_map, List.flatMap_map]
    simp only [line, String.toList_append]
    rfl
  rw [Report.printed, ho]
  apply List.splitOn_intercalate
  · intro t ht
    rcases List.mem_append.mp ht with ht | ht
    · obtain ⟨l, hm, rfl⟩ := List.mem_map.mp ht
      exact hl l hm
    · rw [List.mem_singleton.mp ht]
      exact List.not_mem_nil
  · exact List.append_ne_nil_of_right_ne_nil _ (List.cons_ne_nil _ _)

theorem mem_printed_iff (h : r.Gives ls code) (hl : ∀ l ∈ ls, '\n' ∉ l.toList) (hs : s ≠ "") :
    s.toList ∈ r.printed ↔ s ∈ ls := by
  rw [h.printed_eq hl, List.mem_append, List.mem_singleton, String.toList_eq_nil_iff, or_iff_left hs,
    List.mem_map]
  constructor
  · rintro ⟨t, ht, hst⟩
    exact String.toList_inj.mp hst ▸ ht
  · exact fun ht => ⟨s, ht, rfl⟩

end Report.Gives

end CommandLine

end Sigil
