import LineShell.Proofs.Passes
import Mathlib.Data.List.Forall2

/-!
Quoting. A text in single quotes is literal, and a single quote in it is written in double quotes
between two such quotations. A line made of quoted texts asks for exactly these texts, whatever
characters are in them.

  - `words_quote`: the words of a quoted text spell it, and the line after it is read as ever.
  - `arguments_spelled`: words that spell texts, with blanks between, are these arguments.
  - `ofLine_quoteLine`: the commands of a line of quoted texts are those texts.
-/

namespace LineShell

namespace Quote

def inside (c : Char) : Text := if c = '\'' then "'\"'\"'".toList else [c]

def quote (text : Text) : Text := '\'' :: text.flatMap inside ++ ['\'']

def command (argv : List Text) : Text := Text.join [' '] (argv.map quote)

def line (stages : List (List Text)) : Text := Text.join " | ".toList (stages.map command)

/-! ## One text -/

def Spells (text : Text) (words : List Word) : Prop :=
  (∀ w ∈ words, ∃ t, w = .quoted t) ∧ words.flatMap Word.text = text

theorem spells_append {s t : Text} {ws us : List Word} (hs : Spells s ws) (ht : Spells t us) :
    Spells (s ++ t) (ws ++ us) := by
  refine ⟨fun w hw => ?_, by rw [List.flatMap_append, hs.2, ht.2]⟩
  rcases List.mem_append.mp hw with hw | hw
  · exact hs.1 w hw
  · exact ht.1 w hw

theorem spells_tokens (tokens : List Token) : Spells tokens.flatten (tokens.map Word.quoted) := by
  refine ⟨fun w hw => ?_, ?_⟩
  · obtain ⟨t, -, rfl⟩ := List.mem_map.mp hw
    exact ⟨t, rfl⟩
  · rw [List.flatMap_map]
    exact List.flatMap_id'

variable (vars : Variables)

theorem action_single {token : Token} (h : token ≠ ['\'']) (next : Option Token) :
    Quoting.single.action token next = .emit := if_neg h

/-- Inside single quotes all is literal up to the next single quote. -/
theorem words_single_tokens {tokens : List Token} (h : ['\''] ∉ tokens) (rest : List Token) :
    Quoting.single.words vars (tokens ++ rest) =
      (tokens.map Word.quoted ++ ·) <$> Quoting.single.words vars rest := by
  refine Quoting.words_emit_all (fun token ht follower => action_single ?_ follower) rest
  rintro rfl
  exact h ht

theorem words_single_text {text : Text} (h : '\'' ∉ text) (rest : Text) :
    Quoting.single.words vars (Token.scan (text ++ '\'' :: rest)) =
      ((Token.scan text).map Word.quoted ++ ·) <$> Quoting.bare.words vars (Token.scan rest) := by
  have hscan : ['\''] ∉ Token.scan text := fun hm => h (Token.mem_of_mem_scan hm (List.mem_singleton.mpr rfl))
  rw [Token.scan_append_delimiter rfl, words_single_tokens vars hscan, Quoting.words_switch rfl]

theorem flatMap_inside {text : Text} (h : '\'' ∉ text) : text.flatMap inside = text := by
  induction text with
  | nil => rfl
  | cons c r ih =>
    rw [List.mem_cons, not_or] at h
    rw [List.flatMap_cons, ih h.2, inside, if_neg (Ne.symm h.1)]
    rfl

/-- A single quote in double quotes is one word, and the next quotation is open after it. -/
theorem words_escaped (rest : Text) :
    Quoting.bare.words vars (Token.scan ('"' :: '\'' :: '"' :: '\'' :: rest)) =
      (Word.quoted ['\''] :: ·) <$> Quoting.single.words vars (Token.scan rest) := by
  have hd : ∀ next, Quoting.double.action ['\''] next = .emit := fun _ => rfl
  rw [Token.scan_delimiter rfl, Token.scan_delimiter rfl, Token.scan_delimiter rfl, Token.scan_delimiter rfl,
    Quoting.words_switch rfl, Quoting.words_emit (hd _), Quoting.words_switch rfl, Quoting.words_switch rfl]
  rfl

/-- After an opening quote, the rest of a quoted text is words that spell it. -/
theorem words_inside (text : Text) :
    ∃ ws, Spells text ws ∧ ∀ rest : Text,
      Quoting.single.words vars (Token.scan (text.flatMap inside ++ '\'' :: rest)) =
        (ws ++ ·) <$> Quoting.bare.words vars (Token.scan rest) := by
  induction text using (measure List.length).wf.induction with
  | _ text ih =>
  by_cases hq : '\'' ∈ text
  · obtain ⟨a, b, rfl, ha⟩ := List.eq_append_cons_of_mem hq
    have hlt : b.length < (a ++ '\'' :: b).length := by rw [List.length_append, List.length_cons]; omega
    obtain ⟨us, hus, hwords⟩ := ih b hlt
    have hspell := spells_tokens (Token.scan a)
    rw [Token.scan_flatten] at hspell
    have hquote : Spells ['\''] [.quoted ['\'']] := spells_tokens [['\'']]
    refine ⟨_, spells_append hspell (spells_append hquote hus), fun rest => ?_⟩
    have htext : (a ++ '\'' :: b).flatMap inside ++ '\'' :: rest =
        a ++ '\'' :: ('"' :: '\'' :: '"' :: '\'' :: (b.flatMap inside ++ '\'' :: rest)) := by
      rw [List.flatMap_append, flatMap_inside ha, List.flatMap_cons, List.append_assoc, List.append_assoc]
      rfl
    rw [htext, words_single_text vars ha, words_escaped, hwords, Functor.map_map, Functor.map_map]
    simp only [List.append_assoc, List.cons_append, List.nil_append]
  · refine ⟨(Token.scan text).map Word.quoted, ?_, fun rest => ?_⟩
    · have := spells_tokens (Token.scan text)
      rwa [Token.scan_flatten] at this
    · rw [flatMap_inside hq, words_single_text vars hq]

/-- A quoted text becomes words that spell it, and what comes after it is read as ever. -/
theorem words_quote (text : Text) :
    ∃ ws, Spells text ws ∧ ∀ rest : Text,
      Quoting.bare.words vars (Token.scan (quote text ++ rest)) =
        (ws ++ ·) <$> Quoting.bare.words vars (Token.scan rest) := by
  obtain ⟨ws, hspell, hwords⟩ := words_inside vars text
  refine ⟨ws, hspell, fun rest => ?_⟩
  rw [quote, List.append_assoc, List.cons_append, Token.scan_delimiter rfl, Quoting.words_switch rfl]
  exact hwords rest

/-! ## The texts of a command -/

inductive SpellsAll : List Text → List Word → Prop
  | one {text : Text} {ws : List Word} : Spells text ws → SpellsAll [text] ws
  | more {text : Text} {argv : List Text} {ws us : List Word} :
      Spells text ws → SpellsAll argv us → SpellsAll (text :: argv) (ws ++ .bare [' '] :: us)

/-- A character that is a token of its own and neither opens a quotation nor can start a reference
is kept. -/
theorem words_kept {c : Char} (hc : c = ' ' ∨ c = '|') (rest : Text) :
    Quoting.bare.words vars (Token.scan (c :: rest)) =
      (Word.bare [c] :: ·) <$> Quoting.bare.words vars (Token.scan rest) := by
  rcases hc with rfl | rfl
  · rw [Token.scan_delimiter rfl]
    exact Quoting.words_emit rfl
  · rw [Token.scan_delimiter rfl]
    exact Quoting.words_emit rfl

theorem words_command {argv : List Text} (hne : argv ≠ []) :
    ∃ ws, SpellsAll argv ws ∧ ∀ rest : Text,
      Quoting.bare.words vars (Token.scan (command argv ++ rest)) =
        (ws ++ ·) <$> Quoting.bare.words vars (Token.scan rest) := by
  induction argv with
  | nil => contradiction
  | cons text argv ih =>
    obtain ⟨ws, hspell, hwords⟩ := words_quote vars text
    cases argv with
    | nil => exact ⟨ws, .one hspell, hwords⟩
    | cons text' argv =>
      obtain ⟨us, hall, hrest⟩ := ih (by simp)
      refine ⟨_, .more hspell hall, fun rest => ?_⟩
      have hcommand : command (text :: text' :: argv) ++ rest =
          quote text ++ (' ' :: (command (text' :: argv) ++ rest)) := by
        show (quote text ++ [' '] ++ command (text' :: argv)) ++ rest = _
        simp only [List.append_assoc, List.cons_append, List.nil_append]
      rw [hcommand, hwords, words_kept vars (Or.inl rfl), hrest, Functor.map_map, Functor.map_map]
      simp only [List.append_assoc, List.cons_append]

/-! ## Spelled arguments -/

theorem argumentsFrom_quoted {ws : List Word} (h : ∀ w ∈ ws, ∃ t, w = .quoted t) (current : Text)
    (rest : List Word) :
    Command.argumentsFrom (some current) (ws ++ rest) =
      Command.argumentsFrom (some (current ++ ws.flatMap Word.text)) rest := by
  induction ws generalizing current with
  | nil => simp
  | cons w ws ih =>
    obtain ⟨t, rfl⟩ := h w (List.mem_cons_self ..)
    have hrest := ih (fun x hx => h x (List.mem_cons_of_mem _ hx)) (current ++ t)
    rw [List.flatMap_cons, ← List.append_assoc]
    exact hrest

/-- Words that spell a text that is not empty begin an argument with it. -/
theorem argumentsFrom_spelled {text : Text} {ws : List Word} (h : Spells text ws) (hne : text ≠ [])
    (rest : List Word) : Command.argumentsFrom none (ws ++ rest) = Command.argumentsFrom (some text) rest := by
  obtain ⟨hquoted, hspell⟩ := h
  cases ws with
  | nil => exact absurd hspell.symm hne
  | cons w ws =>
    obtain ⟨t, rfl⟩ := hquoted w (List.mem_cons_self ..)
    have hrest := argumentsFrom_quoted (fun x hx => hquoted x (List.mem_cons_of_mem _ hx)) t rest
    rw [← hspell]
    exact hrest

/-- Words that spell texts, with blanks between, are these arguments. -/
theorem arguments_spelled {argv : List Text} {ws : List Word} (h : SpellsAll argv ws) (hne : ∀ s ∈ argv, s ≠ []) :
    Command.arguments ws = argv := by
  unfold Command.arguments
  induction h with
  | one hspell =>
    have hone := argumentsFrom_spelled hspell (hne _ (List.mem_cons_self ..)) []
    rw [List.append_nil] at hone
    exact hone
  | more hspell _ ih =>
    rw [argumentsFrom_spelled hspell (hne _ (List.mem_cons_self ..))]
    show _ :: Command.argumentsFrom none _ = _
    rw [ih fun s hs => hne s (List.mem_cons_of_mem _ hs)]

/-! ## A stage -/

theorem spells_ne_nil {text : Text} {ws : List Word} (h : Spells text ws) (hne : text ≠ []) : ws ≠ [] := by
  rintro rfl
  exact hne h.2.symm

theorem spellsAll_head {argv : List Text} {ws : List Word} (h : SpellsAll argv ws) (hne : ∀ s ∈ argv, s ≠ []) :
    ∃ t us, ws = .quoted t :: us := by
  have first : ∀ {text : Text} {ws : List Word}, Spells text ws → text ≠ [] → ∃ t us, ws = .quoted t :: us := by
    intro text ws hspell htext
    obtain ⟨w, us, rfl⟩ := List.exists_cons_of_ne_nil (spells_ne_nil hspell htext)
    obtain ⟨t, rfl⟩ := hspell.1 w (List.mem_cons_self ..)
    exact ⟨t, us, rfl⟩
  cases h with
  | one hspell => exact first hspell (hne _ (List.mem_cons_self ..))
  | more hspell _ =>
    obtain ⟨t, us, rfl⟩ := first hspell (hne _ (List.mem_cons_self ..))
    exact ⟨t, _, rfl⟩

theorem spellsAll_last {argv : List Text} {ws : List Word} (h : SpellsAll argv ws) (hne : ∀ s ∈ argv, s ≠ []) :
    ∀ w ∈ ws.getLast?, w.isBlank = false := by
  induction h with
  | one hspell =>
    intro w hw
    obtain ⟨t, rfl⟩ := hspell.1 w (List.mem_of_getLast? hw)
    rfl
  | more _ hall ih =>
    have hargv := fun s hs => hne s (List.mem_cons_of_mem _ hs)
    obtain ⟨t, us, rfl⟩ := spellsAll_head hall hargv
    rw [List.getLast?_append_cons, List.getLast?_cons_cons]
    exact ih hargv

theorem spellsAll_no_pipe {argv : List Text} {ws : List Word} (h : SpellsAll argv ws) :
    ∀ w ∈ ws, w.isPipe = false := by
  have quoted : ∀ {text : Text} {ws : List Word}, Spells text ws → ∀ w ∈ ws, w.isPipe = false := by
    intro text ws hspell w hw
    obtain ⟨t, rfl⟩ := hspell.1 w hw
    rfl
  induction h with
  | one hspell => exact quoted hspell
  | more hspell _ ih =>
    intro w hw
    rcases List.mem_append.mp hw with hw | hw
    · exact quoted hspell w hw
    · rcases List.mem_cons.mp hw with rfl | hw
      · rfl
      · exact ih w hw

/-- A stage whose words spell texts, but for blanks around them. -/
def Carries (argv : List Text) (stage : Stage) : Prop :=
  ∃ left ws right, stage.words = left ++ (ws ++ right) ∧ SpellsAll argv ws ∧
    (∀ w ∈ left, w.isBlank = true) ∧ ∀ w ∈ right, w.isBlank = true

/-- Such a stage is not empty, and asks for these texts. -/
theorem carries_command {argv : List Text} {stage : Stage} (h : Carries argv stage) (hne : ∀ s ∈ argv, s ≠ []) :
    stage.isEmpty = false ∧ Command.ofStage stage = .call argv := by
  obtain ⟨left, ws, right, hwords, hall, hleft, hright⟩ := h
  have hlast := spellsAll_last hall hne
  have hargs := arguments_spelled hall hne
  obtain ⟨t, us, rfl⟩ := spellsAll_head hall hne
  refine ⟨?_, ?_⟩
  · rw [Stage.isEmpty, hwords]
    simp [Word.isBlank]
  · have htrim : Command.trim stage.words = .quoted t :: us := by
      rw [hwords]
      exact Command.trim_padded hleft hright (by simp) (by simp [Word.isBlank]) hlast
    rw [Command.ofStage, Command.ofWords, htrim, ← hargs]

theorem carries_stages {stages : List (List Text)} {parsed : List Stage} (h : List.Forall₂ Carries stages parsed)
    (hne : ∀ argv ∈ stages, ∀ s ∈ argv, s ≠ []) :
    parsed.length = stages.length ∧ (∀ stage ∈ parsed, stage.isEmpty = false) ∧
      parsed.map Command.ofStage = stages.map Command.call := by
  induction h with
  | nil => exact ⟨rfl, by simp, rfl⟩
  | cons hfirst _ ih =>
    obtain ⟨hempty, hcommand⟩ := carries_command hfirst (hne _ (List.mem_cons_self ..))
    obtain ⟨hlength, hrest, hcommands⟩ := ih fun argv ha => hne argv (List.mem_cons_of_mem _ ha)
    refine ⟨by rw [List.length_cons, List.length_cons, hlength], ?_, ?_⟩
    · intro stage hs
      rcases List.mem_cons.mp hs with rfl | hs
      · exact hempty
      · exact hrest stage hs
    · rw [List.map_cons, List.map_cons, hcommand, hcommands]

/-! ## A line -/

theorem carries_consFirst {stages : List (List Text)} {parsed : List Stage} (hne : stages ≠ [])
    (h : List.Forall₂ Carries stages parsed) {blank : Word} (hb : blank.isBlank = true) :
    List.Forall₂ Carries stages (Stage.consFirst blank parsed) := by
  cases h with
  | nil => contradiction
  | cons hfirst hrest =>
    obtain ⟨left, ws, right, hwords, hall, hleft, hright⟩ := hfirst
    refine .cons ⟨blank :: left, ws, right, by simp [hwords], hall, ?_, hright⟩ hrest
    intro w hw
    rcases List.mem_cons.mp hw with rfl | hw
    · exact hb
    · exact hleft w hw

/-- The words of a line of quoted texts, cut into stages, carry the texts stage by stage. -/
theorem words_line {stages : List (List Text)} (hne : stages ≠ []) (hargv : ∀ argv ∈ stages, argv ≠ []) :
    ∃ words, Quoting.bare.words vars (Token.scan (line stages)) = .ok words ∧
      List.Forall₂ Carries stages (Stage.split words) := by
  induction stages with
  | nil => contradiction
  | cons argv stages ih =>
    obtain ⟨ws, hall, hwords⟩ := words_command vars (hargv argv (List.mem_cons_self ..))
    cases stages with
    | nil =>
      refine ⟨ws, ?_, ?_⟩
      · have hone := hwords []
        rw [List.append_nil] at hone
        rw [show line [argv] = command argv from rfl, hone]
        show Except.ok (ws ++ []) = _
        rw [List.append_nil]
      · rw [Stage.split_of_no_pipe (spellsAll_no_pipe hall)]
        exact .cons ⟨[], ws, [], by simp, hall, by simp, by simp⟩ .nil
    | cons argv' stages =>
      obtain ⟨us, hrest, hparsed⟩ := ih (by simp) fun a ha => hargv a (List.mem_cons_of_mem _ ha)
      refine ⟨ws ++ .bare [' '] :: .bare ['|'] :: .bare [' '] :: us, ?_, ?_⟩
      · have hline : line (argv :: argv' :: stages) =
            command argv ++ ' ' :: '|' :: ' ' :: line (argv' :: stages) := by
          show (command argv ++ " | ".toList) ++ line (argv' :: stages) = _
          rw [List.append_assoc]
          rfl
        rw [hline, hwords, words_kept vars (Or.inl rfl), words_kept vars (Or.inr rfl), words_kept vars (Or.inl rfl),
          hrest]
        rfl
      · have hblank : ∀ w ∈ [Word.bare [' ']], w.isBlank = true := by decide
        have hno : ∀ w ∈ ws ++ [.bare [' ']], w.isPipe = false := by
          intro w hw
          rcases List.mem_append.mp hw with hw | hw
          · exact spellsAll_no_pipe hall w hw
          · rw [List.mem_singleton.mp hw]; rfl
        rw [List.append_cons, Stage.split_append_pipe hno rfl, Stage.split_other rfl]
        refine .cons ⟨[], ws, _, rfl, hall, by simp, hblank⟩ ?_
        exact carries_consFirst (by simp) hparsed rfl

/-- A line of quoted texts has as many stages, none of them empty, and each asks for exactly its
texts: nothing in a text separates, pipes, assigns or is expanded. -/
theorem ofLine_quoteLine (vars : Variables) (stages : List (List Text)) (hne : stages ≠ [])
    (htexts : ∀ argv ∈ stages, argv ≠ [] ∧ ∀ s ∈ argv, s ≠ []) :
    ∃ parsed, Stage.ofLine vars (line stages) = .ok parsed ∧ parsed.length = stages.length ∧
      (∀ stage ∈ parsed, stage.isEmpty = false) ∧
      parsed.map Command.ofStage = stages.map Command.call := by
  obtain ⟨words, hwords, hcarries⟩ := words_line vars hne fun argv h => (htexts argv h).1
  refine ⟨Stage.split words, ?_, ?_⟩
  · rw [Stage.ofLine, Word.ofTokens, hwords]
    rfl
  · exact carries_stages hcarries fun argv h => (htexts argv h).2

def awkward : List (List Text) :=
  [["it's $x | \"y\"".toList, "'".toList], ["x=1".toList, "\n\x00".toList]]

theorem ofLine_quoteLine_awkward :
    awkward ≠ [] ∧ (∀ argv ∈ awkward, argv ≠ [] ∧ ∀ s ∈ argv, s ≠ []) ∧
      ∃ parsed, Stage.ofLine {} (line awkward) = .ok parsed ∧ parsed.length = awkward.length ∧
        (∀ stage ∈ parsed, stage.isEmpty = false) ∧
        parsed.map Command.ofStage = awkward.map Command.call :=
  ⟨by decide, by decide, ofLine_quoteLine {} awkward (by decide) (by decide)⟩

end Quote

end LineShell
