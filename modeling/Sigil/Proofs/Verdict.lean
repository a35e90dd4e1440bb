import Sigil.Proofs.Beginning
import Sigil.Proofs.CommandLine
import Sigil.Proofs.Transcript

/-!
A run that declares a symbol goes one of six ways. Each of them says which lines were written, so
that what holds of every run is read off the cases.
-/

namespace Sigil

open Text Lexer

namespace Punctuation

variable {p : Punctuation} {serial : Nat} {name : String} {symbol : Text} {features : Features}
  {module : String}

/-- What is shown of a type that was declared. -/
def shown (p : Punctuation) : List String :=
  [ p.name ++ " `" ++ String.ofList p.symbol ++ "`",
    "\tAtoms: " ++ " ".intercalate (p.atoms.map fun a => String.ofList a.text),
    "\tLocations: " ++ toString p.length ]

theorem plain_symbol (p : Punctuation) : Plain (String.ofList p.symbol) :=
  .ofList fun c hc => isBlank_of_isPunctuation (p.symbol_spec.2.1 c hc)

theorem plain_atoms (p : Punctuation) :
    Plain (" ".intercalate (p.atoms.map fun a => String.ofList a.text)) := by
  obtain ⟨-, hs, ha⟩ := p.symbol_spec
  have hspace : Plain " " := .of_all rfl
  apply hspace.intercalate
  intro s hm
  obtain ⟨a, hmem, rfl⟩ := List.mem_map.mp hm
  refine .ofList fun c hc => isBlank_of_isPunctuation (hs c ?_)
  rw [← Symbol.flatMap_text_lenient hs, ← ha]
  exact List.mem_flatMap.mpr ⟨a, hmem, hc⟩

end Punctuation

namespace CommandLine

variable {host : Host} {terminal : Bool} {settings : Settings} {p : Punctuation} {i : Instance}
  {b : Buffer} {name symbol text : Text} {tokens : List Token} {input : Option Text} {r : Report}

/-- The tokens of a text as a run shows them, which has to be asked for it. -/
def Settings.dumped (settings : Settings) (text : Text) : List String :=
  if settings.dumpTokens then (lexText text).tokens.map Token.dump else []

/-- What is shown of an instance that was found, and of the input after it. -/
def foundLines (i : Instance) (s : Stream) : List String :=
  ("\tParsed at: " ++ ", ".intercalate (i.locations.map Error.placeOf)) ::
    ("\tRest: " ++ restOf s) ::
      if i.type.features.printing then ["\tPrinted: " ++ String.ofList i.type.symbol] else []

/-- The type that the settings declare. -/
def Settings.Declares (settings : Settings) (name symbol : Text) (p : Punctuation) : Prop :=
  Punctuation.declare 0 (String.ofList name) symbol settings.features
    (Punctuation.moduleOfCaller none) = .ok p

/-- What a run makes of a declaration and of the text that it is checked against. -/
inductive Verdict (settings : Settings) (name symbol : Text) : Option Text → Report → Prop
  | undeclared {input : Option Text} {r : Report}
      (h : ¬ (isIdentifier name = true ∧ symbol ≠ [] ∧ ∀ c ∈ symbol, isPunctuation c = true))
      (hr : r.Gives [] 1) : Verdict settings name symbol input r
  | declared {p : Punctuation} {r : Report} (h : settings.Declares name symbol p)
      (hr : r.Gives p.shown 0) : Verdict settings name symbol none r
  | unchecked {p : Punctuation} {text : Text} {r : Report} (h : settings.Declares name symbol p)
      (hp : settings.features.parsing = false) (hr : r.Gives p.shown 1) :
      Verdict settings name symbol (some text) r
  | unread {p : Punctuation} {text : Text} {r : Report} {e : Error}
      (h : settings.Declares name symbol p) (ht : tokenize text = .error e)
      (hr : r.Gives (p.shown ++ settings.dumped text) 1) :
      Verdict settings name symbol (some text) r
  | missing {p : Punctuation} {text : Text} {r : Report} {tokens : List Token}
      (h : settings.Declares name symbol p) (ht : tokenize text = .ok tokens)
      (hs : ¬ symbol <+: text.dropWhile isBlank)
      (hr : r.Gives (p.shown ++ (settings.dumped text ++ ["\tPeek: False"])) 1) :
      Verdict settings name symbol (some text) r
  | found {p : Punctuation} {text : Text} {r : Report} {tokens : List Token} {b : Buffer}
      {ls : List Location} (h : settings.Declares name symbol p)
      (hp : settings.features.parsing = true) (ht : tokenize text = .ok tokens)
      (hb : b.tokens = tokens) (hl : ∀ l ∈ ls, l.source = .string none)
      (hs : symbol <+: text.dropWhile isBlank) (hn : symbol.length < tokens.length)
      (hr : r.Gives (p.shown ++ (settings.dumped text ++
        "\tPeek: True" :: foundLines ⟨p, ls⟩ ⟨⟨b, symbol.length⟩⟩)) 0) :
      Verdict settings name symbol (some text) r

theorem Settings.Declares.spec (h : settings.Declares name symbol p) :
    p.name = String.ofList name ∧ isIdentifier name = true ∧ p.symbol = symbol ∧
      p.features = settings.features := by
  obtain ⟨hi, hn, hs, hf⟩ := Punctuation.declare_spec h
  rw [String.toList_ofList] at hi
  exact ⟨hn, hi, hs, hf⟩

/-- A line of its own that does not say that the symbol was found. -/
def Quiet (s : String) : Prop := '\n' ∉ s.toList ∧ s ≠ "\tPeek: True"

theorem Quiet.of_plain {s : String} (h : Plain s) : Quiet s := by
  refine ⟨h.newline, ?_⟩
  rintro rfl
  have ht : isPlain '\t' = true := h '\t' (by decide)
  contradiction

theorem quiet_of_mem_shown (h : settings.Declares name symbol p) : ∀ s ∈ p.shown, Quiet s := by
  obtain ⟨hname, hi, -, -⟩ := h.spec
  have hmark : Plain "`" := .of_all rfl
  have hmark' : Plain " `" := .of_all rfl
  have hp : Plain p.name := hname ▸ .ofList_identifier hi
  simp only [Punctuation.shown, List.forall_mem_cons]
  refine ⟨.of_plain (((hp.append hmark').append p.plain_symbol).append hmark), ?_, ?_, ?_⟩
  · -- The other lines begin with a tab, but not with the same word behind it.
    refine ⟨p.plain_atoms.newline_append rfl, ?_⟩
    simp [← String.toList_inj]
  · refine ⟨(Plain.nat _).newline_append rfl, ?_⟩
    simp [← String.toList_inj]
  · exact List.forall_mem_nil _

theorem quiet_of_mem_dumped (settings : Settings) (text : Text) :
    ∀ s ∈ settings.dumped text, Quiet s := by
  intro s hs
  rw [Settings.dumped] at hs
  split at hs
  next =>
    obtain ⟨t, ht, rfl⟩ := List.mem_map.mp hs
    exact .of_plain (.dump (source_of_mem_lexText ht))
  next => contradiction

theorem newline_of_mem_foundLines {ls : List Location} (hl : ∀ l ∈ ls, l.source = .string none)
    (s : Stream) : ∀ line ∈ foundLines ⟨p, ls⟩ s, '\n' ∉ line.toList := by
  have hcomma : Plain ", " := .of_all rfl
  have hplaces : Plain (", ".intercalate (ls.map Error.placeOf)) := by
    apply hcomma.intercalate
    intro s hm
    obtain ⟨l, hmem, rfl⟩ := List.mem_map.mp hm
    exact .placeOf (hl l hmem)
  simp only [foundLines, List.forall_mem_cons]
  refine ⟨hplaces.newline_append rfl, (Plain.quotePoints _).newline_append rfl, ?_⟩
  split
  next =>
    intro line hm
    rw [List.mem_singleton.mp hm]
    exact p.plain_symbol.newline_append rfl
  next => exact List.forall_mem_nil _

theorem Report.Gives.not_mem_printed {ls : List String} {code : Nat} (h : r.Gives ls code)
    (hq : ∀ s ∈ ls, Quiet s) : "\tPeek: True".toList ∉ r.printed := by
  rw [h.mem_printed_iff (fun s hs => (hq s hs).1) (by decide)]
  exact fun hm => (hq _ hm).2 rfl

theorem Report.Gives.printed_of_found {ls : List Location} {s : Stream} {code : Nat}
    (hr : r.Gives (p.shown ++ (settings.dumped text ++ "\tPeek: True" :: foundLines ⟨p, ls⟩ s)) code)
    (h : settings.Declares name symbol p) (hl : ∀ l ∈ ls, l.source = .string none) :
    r.printed = (p.shown ++ settings.dumped text).map String.toList ++
      ("\tPeek: True" :: foundLines ⟨p, ls⟩ s).map String.toList ++ [[]] := by
  rw [← List.append_assoc] at hr
  rw [hr.printed_eq, List.map_append]
  intro line hm
  rcases List.mem_append.mp hm with hm | hm
  · rcases List.mem_append.mp hm with hm | hm
    · exact (quiet_of_mem_shown h line hm).1
    · exact (quiet_of_mem_dumped settings text line hm).1
  · rcases List.mem_cons.mp hm with rfl | hm
    · decide
    · exact newline_of_mem_foundLines hl s line hm

theorem Verdict.mem_printed_iff (h : Verdict settings name symbol input r) :
    "\tPeek: True".toList ∈ r.printed ↔ input ≠ none ∧ r.ending = .exit 0 := by
  have hone (h : r.ending = .exit 1) : ¬ (input ≠ none ∧ r.ending = .exit 0) := by simp [h]
  cases h with
  | undeclared _ hr =>
      exact iff_of_false (hr.not_mem_printed (List.forall_mem_nil _)) (hone hr.ending)
  | declared h hr => exact iff_of_false (hr.not_mem_printed (quiet_of_mem_shown h)) (by simp)
  | unchecked h _ hr =>
      exact iff_of_false (hr.not_mem_printed (quiet_of_mem_shown h)) (hone hr.ending)
  | @unread p text _ _ h _ hr =>
      refine iff_of_false (hr.not_mem_printed ?_) (hone hr.ending)
      exact List.forall_mem_append.mpr ⟨quiet_of_mem_shown h, quiet_of_mem_dumped settings text⟩
  | @missing p text _ _ h _ _ hr =>
      refine iff_of_false (hr.not_mem_printed ?_) (hone hr.ending)
      refine List.forall_mem_append.mpr ⟨quiet_of_mem_shown h, List.forall_mem_append.mpr
        ⟨quiet_of_mem_dumped settings text, ?_⟩⟩
      intro s hs
      rw [List.mem_singleton.mp hs]
      exact ⟨by decide, by decide⟩
  | found h _ _ _ hl _ _ hr =>
      refine iff_of_true ?_ ⟨Option.some_ne_none _, hr.ending⟩
      rw [hr.printed_of_found h hl]
      simp

end CommandLine

end Sigil
