import LineShell.Builtin

/-!
Argument lists. Until the options have ended, a word may be an option, the end of the options or a
request for the usage text; after that it is data, whatever it looks like. So every `grep` can be asked
for: its settings in any order and either form, then `--`, and then its pattern and its files.

  - `parseFrom_switch` / `parseFrom_value` / `parseFrom_dashes`: one option, and the end of the options.
  - `parseFrom_taken`: a word that is taken as data.
  - `parseFrom_data`: all words after that end are taken.
  - `read_ofNat`: a count that fits is read back from its numeral.
  - `parseFrom_settings`: any settings one after the other.
  - `parse_settings`: the argument lists that a `grep` can be written as.
-/

namespace LineShell

namespace Options.Grammar

variable {α : Type} {g : Grammar α} {state : State α} {word : Text}

/-- A word that is an option wherever options are read. -/
structure IsOption (word : Text) : Prop where
  starts : word.head? = some '-'
  ne_dashes : word ≠ "--".toList
  not_help : isHelp word = false

/-- A switch changes the value, and the words behind it are read on. -/
theorem parseFrom_switch (hended : state.ended = false) (hhelp : state.help = false) (hword : IsOption word)
    {set : α → α} (hset : g.option word = some (.switch set)) (rest : List Text) :
    g.parseFrom state (word :: rest) = g.parseFrom { state with value := set state.value } rest := by
  rw [parseFrom.eq_def]
  simp only [hended, hhelp, hword.starts, hword.ne_dashes, hword.not_help, hset, Bool.not_false, Bool.and_false,
    Bool.true_and, BEq.rfl, Bool.false_eq_true, if_false, if_true]

/-- A setting with a value takes the next word, whatever it is. -/
theorem parseFrom_value (hended : state.ended = false) (hhelp : state.help = false) (hword : IsOption word)
    {set : α → Text → Except ValueFault α} (hset : g.option word = some (.value set)) {text : Text} {value : α}
    (hvalue : set state.value text = .ok value) (rest : List Text) :
    g.parseFrom state (word :: text :: rest) = g.parseFrom { state with value } rest := by
  rw [parseFrom.eq_def]
  simp only [hended, hhelp, hword.starts, hword.ne_dashes, hword.not_help, hset, hvalue, Bool.not_false, Bool.and_false,
    Bool.true_and, BEq.rfl, Bool.false_eq_true, if_false, if_true]

theorem parseFrom_dashes (hended : state.ended = false) (rest : List Text) :
    g.parseFrom state ("--".toList :: rest) = g.parseFrom { state with ended := true } rest := by
  have hhelp : isHelp "--".toList = false := by decide
  have hhead : ("--".toList.head? == some '-') = true := by decide
  rw [parseFrom.eq_def]
  simp only [hended, hhelp, hhead, Bool.not_false, Bool.and_false, Bool.true_and, Bool.false_eq_true, if_false, if_true]

/-- Where options are still read, a word that is neither an option nor a request for the usage text is
taken, and where they are not, any word. -/
theorem parseFrom_taken (h : state.ended = false → isHelp word = false ∧ word.head? ≠ some '-') {value : α} {ends : Bool}
    (hword : g.positional state.value word = some (value, ends)) (rest : List Text) :
    g.parseFrom state (word :: rest) = g.parseFrom { state with value, ended := state.ended || ends } rest := by
  rw [parseFrom.eq_def]
  cases hended : state.ended with
  | true => simp only [hword, hended, Bool.not_true, Bool.false_and, Bool.false_eq_true, if_false]
  | false =>
    obtain ⟨hhelp, hhead⟩ := h hended
    have hplain : (word.head? == some '-') = false := beq_false_of_ne hhead
    simp only [hword, hended, hhelp, hplain, Bool.and_false, Bool.false_eq_true, if_false]

/-- Every word has a place, whatever it is: `take` puts it there. -/
def Takes (g : Grammar α) (take : α → Text → α) : Prop :=
  ∀ value word, ∃ ends, g.positional value word = some (take value word, ends)

/-- Every word has a place, and the first one ends the options. -/
def Greedy (g : Grammar α) (take : α → Text → α) : Prop :=
  ∀ value word, g.positional value word = some (take value word, true)

theorem Greedy.takes (h : g.Greedy take) : g.Takes take := fun value word => ⟨true, h value word⟩

theorem parseFrom_data {take : α → Text → α} (htake : g.Takes take) (hended : state.ended = true)
    (words : List Text) : g.parseFrom state words = g.finish { state with value := words.foldl take state.value } := by
  induction words generalizing state with
  | nil => rfl
  | cons word words ih =>
    obtain ⟨ends, hword⟩ := htake state.value word
    have hdata : state.ended = false → isHelp word = false ∧ word.head? ≠ some '-' := fun hfalse =>
      nomatch hended.symm.trans hfalse
    rw [parseFrom_taken hdata hword, hended, Bool.true_or]
    exact ih rfl

theorem parseFrom_dashes_data {take : α → Text → α} (htake : g.Takes take) (hended : state.ended = false)
    (words : List Text) :
    g.parseFrom state ("--".toList :: words) =
      g.finish { state with value := words.foldl take state.value, ended := true } := by
  rw [parseFrom_dashes hended]
  exact parseFrom_data htake rfl words

end Options.Grammar

/-! ## Counts -/

namespace Numeral

theorem le_ofDigitChars (digits : Text) (n : Nat) : n ≤ Nat.ofDigitChars 10 digits n := by
  induction digits generalizing n with
  | nil => exact Nat.le_refl n
  | cons c digits ih =>
    have hrest := ih (10 * n + (c.toNat - '0'.toNat))
    rw [Nat.ofDigitChars_cons]
    omega

/-- Digits are read as the number that they make, if it fits. -/
theorem readDigits_eq {digits : Text} (hdigits : ∀ c ∈ digits, c.isDigit = true) {n : Nat}
    (hfits : Nat.ofDigitChars 10 digits n < bound) : readDigits n digits = .ok (Nat.ofDigitChars 10 digits n) := by
  induction digits generalizing n with
  | nil => rfl
  | cons c digits ih =>
    have hc := hdigits c List.mem_cons_self
    have hstep : n * 10 + (c.toNat - '0'.toNat) = 10 * n + (c.toNat - '0'.toNat) := by omega
    -- what has been read so far is not more than the whole number
    have hso := le_ofDigitChars digits (10 * n + (c.toNat - '0'.toNat))
    rw [Nat.ofDigitChars_cons] at hfits ⊢
    have hrest := ih (fun d hd => hdigits d (List.mem_cons_of_mem c hd)) hfits
    rw [readDigits, hc, hstep, Bool.not_true, if_neg Bool.false_ne_true, if_pos (Nat.lt_of_le_of_lt hso hfits), hrest]

theorem read_ofNat {n : Nat} (h : n < bound) : read (Text.ofNat n) = .ok n := by
  have hdigits : ∀ c ∈ Text.ofNat n, c.isDigit = true := fun c hc =>
    Nat.isDigit_of_mem_toDigits (by decide) (by decide) hc
  have hvalue : Nat.ofDigitChars 10 (Text.ofNat n) 0 = n := Nat.ofDigitChars_ten_toDigits
  have hread : readDigits 0 (Text.ofNat n) = .ok n := by
    rw [readDigits_eq hdigits (by rwa [hvalue]), hvalue]
  have hne : Text.ofNat n ≠ [] := Nat.toDigits_ne_nil
  unfold read
  split
  · rename_i hnil
    exact absurd hnil hne
  · rename_i hplus
    exact absurd (hdigits '+' (by rw [hplus]; exact List.mem_cons_self)) (by decide)
  · rename_i hplus
    exact absurd (hdigits '+' (by rw [hplus]; exact List.mem_cons_self)) (by decide)
  · exact hread

end Numeral

/-! ## The settings of `grep` -/

namespace Builtin

inductive Form where
  | short | long
  deriving DecidableEq, Repr

namespace Grep

inductive Kind where
  | wholeWords | ignoreCase | after
  deriving DecidableEq, Repr

def Kind.word : Kind → Form → Text
  | wholeWords, .short => "-w".toList
  | wholeWords, .long => "--word-regexp".toList
  | ignoreCase, .short => "-i".toList
  | ignoreCase, .long => "--ignore-case".toList
  | after, .short => "-A".toList
  | after, .long => "--after-context".toList

theorem Kind.isOption (kind : Kind) (form : Form) : Options.Grammar.IsOption (kind.word form) := by
  cases kind with
  | wholeWords => cases form <;> exact ⟨rfl, by decide, rfl⟩
  | ignoreCase => cases form <;> exact ⟨rfl, by decide, rfl⟩
  | after => cases form <;> exact ⟨rfl, by decide, rfl⟩

structure Setting where
  kind : Kind
  form : Form
  deriving DecidableEq, Repr

/-- The words of an option. Only the number of lines after a match has a value. -/
def Setting.words (count : Nat) (setting : Setting) : List Text :=
  match setting.kind with
  | .after => [setting.kind.word setting.form, Text.ofNat count]
  | _ => [setting.kind.word setting.form]

def sets (settings : List Setting) (kind : Kind) : Bool := settings.any (·.kind = kind)

/-- The options say what the command is to do. A switch that is wanted is there, as often as one likes
and no other switch is; the number of lines is there once, or not at all if it is zero. -/
structure Spells (grep : Grep) (settings : List Setting) : Prop where
  wholeWords : sets settings .wholeWords = grep.wholeWords
  ignoreCase : sets settings .ignoreCase = grep.ignoreCase
  once : settings.countP (·.kind = .after) ≤ 1
  after : grep.after ≠ 0 → sets settings .after = true

/-- What an option makes of the arguments read before it. -/
def Draft.put (count : Nat) (draft : Draft) (setting : Setting) : Draft :=
  match setting.kind with
  | .wholeWords => { draft with wholeWords := true }
  | .ignoreCase => { draft with ignoreCase := true }
  | .after => { draft with after := some count }

theorem foldl_put (count : Nat) (settings : List Setting) (draft : Draft) :
    settings.foldl (Draft.put count) draft =
      { draft with
        wholeWords := draft.wholeWords || sets settings .wholeWords
        ignoreCase := draft.ignoreCase || sets settings .ignoreCase
        after := if sets settings .after then some count else draft.after } := by
  induction settings generalizing draft with
  | nil => simp [sets]
  | cons setting settings ih =>
    obtain ⟨kind, form⟩ := setting
    rw [List.foldl_cons, ih]
    cases kind <;> simp [Draft.put, sets]

/-- Options are read one after the other, if the number of lines is not set twice. -/
theorem parseFrom_settings {count : Nat} (hcount : count < Numeral.bound) {settings : List Setting} {draft : Draft}
    (honce : settings.countP (·.kind = .after) ≤ if draft.after = none then 1 else 0) (rest : List Text) :
    grammar.parseFrom { value := draft } (settings.flatMap (Setting.words count) ++ rest) =
      grammar.parseFrom { value := settings.foldl (Draft.put count) draft } rest := by
  induction settings generalizing draft with
  | nil => rfl
  | cons setting settings ih =>
    obtain ⟨kind, form⟩ := setting
    have hoption := kind.isOption form
    rw [List.flatMap_cons, List.append_assoc, List.foldl_cons]
    cases kind with
    | wholeWords =>
      have hset : grammar.option (Kind.wholeWords.word form) =
          some (.switch fun draft => { draft with wholeWords := true }) := by
        cases form <;> rfl
      rw [← @ih (draft.put count ⟨.wholeWords, form⟩) honce]
      exact Options.Grammar.parseFrom_switch rfl rfl hoption hset _
    | ignoreCase =>
      have hset : grammar.option (Kind.ignoreCase.word form) =
          some (.switch fun draft => { draft with ignoreCase := true }) := by
        cases form <;> rfl
      rw [← @ih (draft.put count ⟨.ignoreCase, form⟩) honce]
      exact Options.Grammar.parseFrom_switch rfl rfl hoption hset _
    | after =>
      have hset : grammar.option (Kind.after.word form) = some (.value Draft.setAfter) := by
        cases form <;> rfl
      rw [List.countP_cons_of_pos rfl] at honce
      -- this is the first time, and there is no second one
      have hfirst : draft.after = none := by
        cases hset : draft.after with
        | none => rfl
        | some n =>
          rw [hset, if_neg (Option.some_ne_none n)] at honce
          exact absurd honce (Nat.not_succ_le_zero _)
      have hvalue : draft.setAfter (Text.ofNat count) = .ok { draft with after := some count } := by
        simp only [Draft.setAfter, hfirst, Numeral.read_ofNat hcount]
      have hnone : settings.countP (·.kind = .after) ≤ 0 := by
        rw [if_pos hfirst] at honce
        exact Nat.le_of_succ_le_succ honce
      rw [← @ih (draft.put count ⟨.after, form⟩) hnone]
      exact Options.Grammar.parseFrom_value rfl rfl hoption hset hvalue _

/-- The first word is the pattern, and the others are files. -/
def Draft.take (draft : Draft) (word : Text) : Draft :=
  match draft.pattern with
  | none => { draft with pattern := some word }
  | some _ => { draft with files := draft.files ++ [word] }

theorem takes : grammar.Takes Draft.take := by
  intro draft word
  cases hpattern : draft.pattern with
  | none => exact ⟨false, by simp only [grammar, Draft.take, hpattern]⟩
  | some _ => exact ⟨true, by simp only [grammar, Draft.take, hpattern]⟩

theorem foldl_take {draft : Draft} {pattern : Text} (hpattern : draft.pattern = some pattern) (files : List Text) :
    files.foldl Draft.take draft = { draft with files := draft.files ++ files } := by
  induction files generalizing draft with
  | nil => simp
  | cons file files ih =>
    have htake : draft.take file = { draft with files := draft.files ++ [file] } := by
      simp only [Draft.take, hpattern]
    have hkept : ({ draft with files := draft.files ++ [file] } : Draft).pattern = some pattern := hpattern
    rw [List.foldl_cons, htake, ih hkept, List.append_assoc]
    rfl

end Grep

theorem Echo.greedy : Echo.grammar.Greedy fun echo word => { echo with words := echo.words ++ [word] } :=
  fun _ _ => rfl

theorem Echo.foldl_take (echo : Echo) (words : List Text) :
    words.foldl (fun echo word => { echo with words := echo.words ++ [word] }) echo =
      { echo with words := echo.words ++ words } := by
  induction words generalizing echo with
  | nil => simp
  | cons word words ih => rw [List.foldl_cons, ih]; simp

namespace Grep

/-- The settings of a command, each of them once and in its short form. -/
theorem exists_spells (grep : Grep) : ∃ settings, Spells grep settings := by
  refine ⟨(if grep.wholeWords then [⟨.wholeWords, .short⟩] else []) ++
    (if grep.ignoreCase then [⟨.ignoreCase, .short⟩] else []) ++ [⟨.after, .short⟩], ?_⟩
  cases hwords : grep.wholeWords with
  | false =>
    cases hcase : grep.ignoreCase with
    | false => exact ⟨hwords.symm, hcase.symm, by decide, fun _ => rfl⟩
    | true => exact ⟨hwords.symm, hcase.symm, by decide, fun _ => rfl⟩
  | true =>
    cases hcase : grep.ignoreCase with
    | false => exact ⟨hwords.symm, hcase.symm, by decide, fun _ => rfl⟩
    | true => exact ⟨hwords.symm, hcase.symm, by decide, fun _ => rfl⟩

/-- Every `grep` whose number of lines fits can be asked for, and all argument lists that spell it are
read as it: its settings in any order, in either form and repeated at will, but for the one with a
value, and its pattern and its files after `--`, whatever they look like. The words after `--` are the
words of `echo`, too. -/
theorem parse_settings (grep : Grep) (hbound : grep.after < UInt64.size) :
    (∃ settings, Spells grep settings) ∧
      (∀ settings, Spells grep settings →
        parse (settings.flatMap (Setting.words grep.after) ++ "--".toList :: grep.pattern :: grep.files) = .ok grep) ∧
      ∀ words, Echo.grammar.parse ("--".toList :: words) = .ok { words } := by
  refine ⟨exists_spells grep, fun settings h => ?_, fun words => ?_⟩
  · have honce : settings.countP (·.kind = .after) ≤ if (({} : Draft).after = none) then 1 else 0 := h.once
    have hafter : (if sets settings .after then some grep.after else none).getD 0 = grep.after := by
      cases hset : sets settings .after with
      | true => rfl
      | false =>
        by_cases hzero : grep.after = 0
        · exact hzero.symm
        · exact absurd (h.after hzero) (by simp [hset])
    have hsettings := parseFrom_settings hbound honce ("--".toList :: grep.pattern :: grep.files)
    rw [Options.Grammar.parseFrom_dashes_data takes rfl, foldl_put, List.foldl_cons, foldl_take rfl] at hsettings
    rw [parse, Options.Grammar.parse, show grammar.start = {} from rfl, hsettings]
    show Except.ok (Grep.mk grep.pattern grep.files (sets settings .wholeWords) (sets settings .ignoreCase)
      ((if sets settings .after then some grep.after else none).getD 0)) = _
    rw [h.wholeWords, h.ignoreCase, hafter]
  · rw [Options.Grammar.parse, Options.Grammar.parseFrom_dashes_data Echo.greedy.takes rfl, Echo.foldl_take]
    rfl

def disguised : Grep :=
  { pattern := "--help".toList
    files := [[], "-A".toList, "--".toList, "help".toList]
    wholeWords := true
    after := 18446744073709551615 }

theorem parse_settings_disguised :
    disguised.after < UInt64.size ∧
      parse ["--word-regexp".toList, "-A".toList, "18446744073709551615".toList, "-w".toList, "--".toList,
        "--help".toList, [], "-A".toList, "--".toList, "help".toList] = .ok disguised ∧
      Echo.grammar.parse ["--".toList, "-n".toList, "--".toList] = .ok { words := ["-n".toList, "--".toList] } := by
  let settings : List Setting := [⟨.wholeWords, .long⟩, ⟨.after, .short⟩, ⟨.wholeWords, .short⟩]
  have hbound : disguised.after < UInt64.size := by decide
  have hspells : Spells disguised settings := ⟨rfl, rfl, by decide, fun _ => rfl⟩
  have hwords : settings.flatMap (Setting.words disguised.after) ++ "--".toList :: disguised.pattern :: disguised.files =
      ["--word-regexp".toList, "-A".toList, "18446744073709551615".toList, "-w".toList, "--".toList,
        "--help".toList, [], "-A".toList, "--".toList, "help".toList] := by
    decide
  obtain ⟨-, hparse, hecho⟩ := parse_settings disguised hbound
  refine ⟨hbound, ?_, hecho _⟩
  rw [← hwords]
  exact hparse settings hspells

end Grep

end Builtin

end LineShell
