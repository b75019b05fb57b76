import LineShell.Proofs.Arguments
import LineShell.Proofs.History
import LineShell.Proofs.Quote

/-!
What is stored in a variable comes back as it was. A quoted text is assigned without being cut,
trimmed or expanded; a quoted reference hands it to a command as one argument, and an unquoted one
to another variable, whole.

  - `scan_name`: a name is one token.
  - `ofLine_assign`: a name, `=` and literal words are a stage that assigns their text.
  - `line_store` / `line_echo` / `line_copy`: the lines that store a text, print it and copy it.
  - `stored_lossless`: the three of them one after the other, for every text.
-/

namespace LineShell

/-! ## Names -/

namespace Command

theorem toNat_of_isNameChar {c : Char} (h : isNameChar c = true) :
    (48 ≤ c.toNat ∧ c.toNat ≤ 57) ∨ (65 ≤ c.toNat ∧ c.toNat ≤ 90) ∨ c.toNat = 95 ∨
      (97 ≤ c.toNat ∧ c.toNat ≤ 122) := by
  unfold isNameChar Char.isAlphanum Char.isAlpha Char.isUpper Char.isLower Char.isDigit at h
  simp only [Bool.or_eq_true, Bool.and_eq_true, decide_eq_true_eq, UInt32.le_iff_toNat_le, ge_iff_le,
    beq_iff_eq] at h
  rcases h with ((h | h) | h) | rfl
  · exact Or.inr (Or.inl h)
  · exact Or.inr (Or.inr (Or.inr h))
  · exact Or.inl h
  · decide

theorem isDelimiter_of_isNameChar {c : Char} (h : isNameChar c = true) : Token.isDelimiter c = false := by
  have hcode := toNat_of_isNameChar h
  rw [Bool.eq_false_iff]
  intro hd
  simp only [Token.isDelimiter, Bool.or_eq_true, beq_iff_eq] at hd
  rcases hd with ((((rfl | rfl) | rfl) | rfl) | rfl) | hblank
  · exact absurd h (by decide)
  · exact absurd h (by decide)
  · exact absurd h (by decide)
  · exact absurd h (by decide)
  · exact absurd h (by decide)
  · simp only [Text.isBlank, Bool.or_eq_true, Bool.and_eq_true, decide_eq_true_eq, beq_iff_eq] at hblank
    omega

theorem isNameChar_of_isNameStart {c : Char} (h : isNameStart c = true) : isNameChar c = true := by
  unfold isNameStart at h
  unfold isNameChar Char.isAlphanum
  rw [Bool.or_eq_true] at h ⊢
  rcases h with h | h
  · exact Or.inl (by rw [h, Bool.true_or])
  · exact Or.inr h

theorem isDelimiter_of_isName {name : Text} (h : isName name = true) : ∀ c ∈ name, Token.isDelimiter c = false := by
  intro c hc
  cases name with
  | nil => cases hc
  | cons d r =>
    simp only [isName, Bool.and_eq_true, List.all_eq_true] at h
    rcases List.mem_cons.mp hc with rfl | hc
    · exact isDelimiter_of_isNameChar (isNameChar_of_isNameStart h.1)
    · exact isDelimiter_of_isNameChar (h.2 c hc)

end Command

namespace Token

theorem scan_name {name : Text} (h : Command.isName name = true) : scan name = [name] := by
  have hne : name ≠ [] := by
    rintro rfl
    cases h
  exact scan_of_free hne (Command.isDelimiter_of_isName h)

theorem isWord_name {name : Text} (h : Command.isName name = true) : isWord name = true := by
  have hplain := Command.isDelimiter_of_isName h
  cases name with
  | nil => cases h
  | cons c r => rw [isWord, hplain c (List.mem_cons_self ..), Bool.not_false]

end Token

/-! ## Lines -/

namespace Recall

/-- `name='value'`, with the value quoted. -/
def storing (name value : Text) : Text := name ++ '=' :: Quote.quote value

def echoing : Text := "echo -n -- ".toList

/-- `echo -n -- "$name"`. -/
def printing (name : Text) : Text := echoing ++ '"' :: '$' :: (name ++ ['"'])

/-- `copy=$name`. -/
def copying (name copy : Text) : Text := copy ++ '=' :: '$' :: name

end Recall

/-! ## Assignments -/

/-- A word that is neither blank nor a separator, whatever its text. -/
def Word.Literal (w : Word) : Prop := ∃ t, w = .quoted t ∨ w = .expansion t

theorem Word.Literal.isBlank {w : Word} (h : w.Literal) : w.isBlank = false := by
  obtain ⟨t, rfl | rfl⟩ := h
  · rfl
  · rfl

theorem Word.Literal.isPipe {w : Word} (h : w.Literal) : w.isPipe = false := by
  obtain ⟨t, rfl | rfl⟩ := h
  · rfl
  · rfl

/-- An unquoted name is neither blank nor a separator. -/
theorem Word.isBlank_name {name : Text} (h : Command.isName name = true) : (Word.bare name).isBlank = false := by
  match name with
  | [] => cases h
  | [c] =>
    have hc := Command.isDelimiter_of_isName h c (List.mem_singleton.mpr rfl)
    rw [Token.isDelimiter, Bool.or_eq_false_iff] at hc
    exact hc.2
  | _ :: _ :: _ => rfl

theorem Word.isPipe_name {name : Text} (h : Command.isName name = true) : (Word.bare name).isPipe = false := by
  refine beq_false_of_ne ?_
  rintro rfl
  cases h

/-- A name, `=` and literal words are a stage that assigns their text. -/
theorem Stage.ofLine_assign {vars : Variables} {line name : Text} {ws : List Word}
    (hname : Command.isName name = true) (hws : ∀ w ∈ ws, w.Literal)
    (hwords : Quoting.bare.words vars (Token.scan line) = .ok (.bare name :: .bare ['='] :: ws)) :
    ∃ stage, Stage.ofLine vars line = .ok [stage] ∧ stage.isEmpty = false ∧
      Command.ofStage stage = .assign name (ws.flatMap Word.text) := by
  refine ⟨⟨.bare name :: .bare ['='] :: ws⟩, ?_, ?_, ?_⟩
  · have hpipe : ∀ w ∈ Word.bare name :: .bare ['='] :: ws, w.isPipe = false := by
      intro w hw
      rcases List.mem_cons.mp hw with rfl | hw
      · exact Word.isPipe_name hname
      · rcases List.mem_cons.mp hw with rfl | hw
        · rfl
        · exact (hws w hw).isPipe
    rw [ofLine, Word.ofTokens, hwords, ← split_of_no_pipe hpipe]
    rfl
  · rw [isEmpty, List.all_cons, Word.isBlank_name hname, Bool.false_and]
  · have hself : ws.rdropWhile Word.isBlank = ws :=
      List.rdropWhile_eq_self_iff.mpr fun hne => by simp [(hws _ (List.getLast_mem hne)).isBlank]
    have htrim : Command.trim (.bare name :: .bare ['='] :: ws) = .bare name :: .bare ['='] :: ws := by
      rw [Command.trim_cons (Word.isBlank_name hname), Command.rdropWhile_cons rfl, hself]
    exact Command.ofWords_assign_iff.mpr ⟨_, ws, htrim, hname, rfl, rfl⟩

namespace Session

open Recall

variable {s : Session} (m : Machine)

/-- A line of one stage that goes on without reading: its variables, and its output at the sink. -/
theorem line_single (hpipe : s.streams.pipe = {}) {line : Text} {stage : Stage}
    (hline : Stage.ofLine s.vars line = .ok [stage]) (hempty : stage.isEmpty = false) {vars : Variables}
    {output : Bytes} (heffect : ∀ input, (Command.ofStage stage).effect m s.directory s.vars input =
      { outcome := .ok .goOn, vars, output, rest := input })
    {sink : Sink} (hwrite : s.streams.sink.write output = (.ok (), sink)) :
    s.line m line = (.ok .goOn, { s.setSink sink with vars }) := by
  have hstage : ∀ input, stage.effect m s.directory ⟨0, 1⟩ s.vars input =
      { outcome := .ok .goOn, vars, output, rest := input } := by
    intro input
    rw [Stage.effect, if_neg (by simp [hempty]), heffect]
  have hflow : Flow.ofStages m s [stage] = { vars, source := s.streams.source, bytes := output } := by
    show (Flow.start s).step m s.directory 1 (stage, 0) = _
    simp only [Flow.step, Flow.start, hstage]
    rfl
  rw [line_accepted m hline, chain_eq_finish s m (by simp), hflow, Flow.finish]
  simp only [hwrite]
  show (Except.ok Signal.goOn, Session.mk vars s.directory { pipe := {}, source := s.streams.source, sink }) = _
  rw [← hpipe]
  rfl

/-- A line that assigns binds its variable and does nothing else. -/
theorem line_of_assign (hpipe : s.streams.pipe = {}) {line name value : Text}
    (h : ∃ stage, Stage.ofLine s.vars line = .ok [stage] ∧ stage.isEmpty = false ∧
      Command.ofStage stage = .assign name value) :
    s.line m line = (.ok .goOn, { s with vars := s.vars.set name value }) := by
  obtain ⟨stage, hline, hempty, hassign⟩ := h
  have heffect : ∀ input, (Command.ofStage stage).effect m s.directory s.vars input =
      { outcome := .ok .goOn, vars := s.vars.set name value, output := [], rest := input } := by
    intro input
    rw [hassign]
    rfl
  exact line_single m hpipe hline hempty heffect (Sink.write_nil _)

theorem line_store (hpipe : s.streams.pipe = {}) {name : Text} (hname : Command.isName name = true) (value : Text) :
    s.line m (storing name value) = (.ok .goOn, { s with vars := s.vars.set name value }) := by
  obtain ⟨ws, hspell, hquoted⟩ := Quote.words_quote s.vars value
  have hrest := hquoted []
  rw [List.append_nil] at hrest
  have hliteral : ∀ w ∈ ws, w.Literal := by
    intro w hw
    obtain ⟨t, rfl⟩ := hspell.1 w hw
    exact ⟨t, Or.inl rfl⟩
  have hwords : Quoting.bare.words s.vars (Token.scan (storing name value)) =
      .ok (.bare name :: .bare ['='] :: ws) := by
    rw [storing, Token.scan_append_delimiter rfl, Token.scan_name hname, List.singleton_append,
      Quoting.words_emit (Quoting.action_word (Token.isWord_name hname) _), Quoting.words_emit rfl, hrest]
    show Except.ok (.bare name :: .bare ['='] :: (ws ++ [])) = _
    rw [List.append_nil]
  have hassign := Stage.ofLine_assign hname hliteral hwords
  rw [hspell.2] at hassign
  exact line_of_assign m hpipe hassign

theorem action_reference {name : Text} (hname : Command.isName name = true) {q : Quoting} (hq : q ≠ .single) :
    q.action ['$'] (some name) = .expand := by
  cases q with
  | single => contradiction
  | bare => simp [Quoting.action, Quoting.isReference, Token.isWord_name hname]
  | double => simp [Quoting.action, Quoting.isReference, Token.isWord_name hname]

theorem line_copy (hpipe : s.streams.pipe = {}) {name copy : Text} (hname : Command.isName name = true)
    (hcopy : Command.isName copy = true) :
    s.line m (copying name copy) = (.ok .goOn, { s with vars := s.vars.set copy (s.vars.expand name) }) := by
  have hliteral : ∀ w ∈ [Word.expansion (s.vars.expand name)], w.Literal := by
    intro w hw
    exact ⟨_, Or.inr (List.mem_singleton.mp hw)⟩
  have href : Quoting.bare.action ['$'] (some name) = .expand := action_reference hname (by decide)
  have hwords : Quoting.bare.words s.vars (Token.scan (copying name copy)) =
      .ok (.bare copy :: .bare ['='] :: [.expansion (s.vars.expand name)]) := by
    rw [copying, Token.scan_append_delimiter rfl, Token.scan_name hcopy, List.singleton_append, Token.scan_delimiter rfl,
      Token.scan_name hname, Quoting.words_emit (Quoting.action_word (Token.isWord_name hcopy) _),
      Quoting.words_emit rfl, Quoting.words_expand href]
    rfl
  have hassign := Stage.ofLine_assign hcopy hliteral hwords
  rw [List.flatMap_singleton] at hassign
  exact line_of_assign m hpipe hassign

/-! ## Printing -/

/-- Whatever the text is, it is the only word that `echo` prints. -/
theorem reply_echo (directory value : Text) (input : Input) :
    Command.reply m directory "echo".toList ["-n".toList, "--".toList, value] input =
      (.ok ⟨Utf8.encode value, 0⟩, input) := by
  -- The options compute. The value does not, and is taken because `--` came before it.
  have hoptions : Builtin.Echo.grammar.parse ["-n".toList, "--".toList, value] =
      Builtin.Echo.grammar.parseFrom { value := { noNewline := true }, ended := true } [value] := rfl
  have hparse : Builtin.Echo.grammar.parse ["-n".toList, "--".toList, value] =
      .ok { noNewline := true, words := [value] } := by
    rw [hoptions, Options.Grammar.parseFrom_data Builtin.Echo.greedy.takes rfl]
    rfl
  have hfind : Builtin.find? ⟨m, directory⟩ "echo".toList =
      some (Builtin.interpret Builtin.Echo.grammar Builtin.Echo.behaviour) := rfl
  have htext : ({ noNewline := true, words := [value] } : Builtin.Echo).text = value := List.append_nil _
  simp only [Command.reply, hfind, Builtin.interpret, hparse, Builtin.Echo.behaviour, htext]
  rfl

theorem line_echo (hpipe : s.streams.pipe = {}) (hroom : s.streams.sink.room = none) {name : Text}
    (hname : Command.isName name = true) :
    s.line m (printing name) =
      (.ok .goOn, s.setSink { s.streams.sink with
        written := s.streams.sink.written ++ Utf8.encode (s.vars.expand name) }) := by
  let value := s.vars.expand name
  let words := (Token.scan echoing).map Word.bare ++ [.quoted value]
  have hkept : ∀ t ∈ Token.scan echoing, t ≠ ['\''] ∧ t ≠ ['"'] ∧ t ≠ ['$'] := by decide
  have href : Quoting.double.action ['$'] (some name) = .expand := action_reference hname (by decide)
  have hwords : Quoting.bare.words s.vars (Token.scan (printing name)) = .ok words := by
    rw [printing, Token.scan_append_delimiter rfl, Token.scan_delimiter rfl, Token.scan_append_delimiter rfl,
      Token.scan_name hname, Quoting.words_emit_all fun t ht => by
        obtain ⟨hs, hd, hr⟩ := hkept t ht
        exact Quoting.action_kept hs hd hr,
      Quoting.words_switch rfl, List.singleton_append, Quoting.words_expand href, Quoting.words_switch rfl]
    rfl
  have hline : Stage.ofLine s.vars (printing name) = .ok [⟨words⟩] := by
    rw [Stage.ofLine, Word.ofTokens, hwords]
    rfl
  have hcall : Command.ofStage ⟨words⟩ = .call ["echo".toList, "-n".toList, "--".toList, value] := rfl
  have heffect : ∀ input, (Command.ofStage ⟨words⟩).effect m s.directory s.vars input =
      { outcome := .ok .goOn, vars := s.vars, output := Utf8.encode value, rest := input } := by
    intro input
    rw [hcall]
    simp only [Command.effect, reply_echo]
    rfl
  have hwrite : s.streams.sink.write (Utf8.encode value) =
      (.ok (), { s.streams.sink with written := s.streams.sink.written ++ Utf8.encode value }) := by
    simp only [Sink.write, hroom]
  exact line_single m hpipe hline rfl heffect hwrite

/-! ## Store, print, copy -/

/-- Whatever the value is, the line that stores it binds the name to it and does nothing else. A
quoted reference prints it byte by byte, and an unquoted one, before that or after it, binds another
name to all of it. -/
theorem stored_lossless (s : Session) (hpipe : s.streams.pipe = {}) (hroom : s.streams.sink.room = none) {name : Text}
    (hname : Command.isName name = true) (value : Text) :
    let stored : Session := { s with vars := s.vars.set name value }
    let printed := stored.setSink { s.streams.sink with written := s.streams.sink.written ++ Utf8.encode value }
    (∀ m, s.line m (storing name value) = (.ok .goOn, stored)) ∧
      (∀ n, stored.vars.get? n = if n = name then some value else s.vars.get? n) ∧
      (∀ m, stored.line m (printing name) = (.ok .goOn, printed)) ∧
      ∀ copy, Command.isName copy = true → ∀ t, t = stored ∨ t = printed →
        (∀ m, t.line m (copying name copy) = (.ok .goOn, { t with vars := t.vars.set copy value })) ∧
          ∀ n, (t.vars.set copy value).get? n = if n = copy then some value else t.vars.get? n := by
  intro stored printed
  have hexpand : stored.vars.expand name = value := by
    rw [Variables.expand, Variables.get?_set, if_pos rfl]
    rfl
  have hprint : ∀ m, stored.line m (printing name) = (.ok .goOn, printed) := by
    intro m
    rw [line_echo m (s := stored) hpipe hroom hname, hexpand]
  refine ⟨fun m => line_store m hpipe hname value, Variables.get?_set s.vars name value, hprint, ?_⟩
  intro copy hcopy t ht
  refine ⟨fun m => ?_, Variables.get?_set t.vars copy value⟩
  have htext : t.vars.expand name = value ∧ t.streams.pipe = {} := by
    rcases ht with rfl | rfl
    · exact ⟨hexpand, hpipe⟩
    · exact ⟨hexpand, hpipe⟩
  rw [line_copy m htext.2 hname hcopy, htext.1]

def awkwardText : Text := " --help | 'it''s' \"$x\"\n".toList

theorem stored_lossless_awkward :
    ({} : Session).streams.pipe = {} ∧ ({} : Session).streams.sink.room = none ∧
      Command.isName "_x".toList = true ∧ Command.isName "y1".toList = true ∧
      (({} : Session).line ({} : Host).machine (storing "_x".toList awkwardText)).1 = .ok .goOn ∧
      ∃ printed, (({ vars := ⟨[("_x".toList, awkwardText)]⟩ } : Session).line ({} : Host).machine
          (printing "_x".toList)) = (.ok .goOn, printed) ∧
        printed.streams.sink.written = Utf8.encode awkwardText ∧
        (printed.line ({} : Host).machine (copying "_x".toList "y1".toList)).2.vars =
          ⟨[("_x".toList, awkwardText), ("y1".toList, awkwardText)]⟩ := by
  obtain ⟨hstore, -, hprint, hcopy⟩ := stored_lossless {} rfl rfl (show Command.isName "_x".toList = true from rfl) awkwardText
  refine ⟨rfl, rfl, rfl, rfl, by rw [hstore], _, hprint _, rfl, ?_⟩
  obtain ⟨hline, -⟩ := hcopy "y1".toList rfl _ (.inr rfl)
  rw [hline]
  rfl

end Session

end LineShell
