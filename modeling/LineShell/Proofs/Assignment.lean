import LineShell.Proofs.Recall
import LineShell.Proofs.Segments

/-!
What a stage that assigns looks like in the line. Quotations are gone when a stage is told apart, so
words can be neighbours that are not neighbours in the line. The form below is one of characters: a
margin of blanks and empty quotations, a name, empty quotations, and `=`. What follows is the value.

  - `words_of_form` / `ofWords_of_form`: a segment of the form has a name and `=` after blanks, and then
    the words of what follows the `=`, so that it assigns.
  - `words_cases`: how a text begins, by the word that it gives first.
  - `form_of_words`: no other segment has words that assign.
  - `ofLine_assigns`: a stage assigns to a name exactly if its segment has the form with that name.
-/

namespace LineShell

/-! ## The form -/

namespace Assignment

/-- A text of empty quotations. -/
inductive Hollow : Text → Prop
  | nil : Hollow []
  | pair {quote : Char} {r : Text} (hquote : quote = '\'' ∨ quote = '"') : Hollow r → Hollow (quote :: quote :: r)

/-- A text of blanks outside quotes and of empty quotations. -/
inductive Margin : Text → Prop
  | nil : Margin []
  | blank {c : Char} {r : Text} (hblank : Text.isBlank c = true) : Margin r → Margin (c :: r)
  | pair {quote : Char} {r : Text} (hquote : quote = '\'' ∨ quote = '"') : Margin r → Margin (quote :: quote :: r)

/-- A segment that assigns to a name, with what it has after the `=`. -/
def Form (name rest segment : Text) : Prop :=
  ∃ margin pairs, segment = margin ++ (name ++ (pairs ++ '=' :: rest)) ∧
    Margin margin ∧ Command.isName name = true ∧ Hollow pairs

variable {name rest segment : Text}

theorem Form.blank {c : Char} (hblank : Text.isBlank c = true) (h : Form name rest segment) :
    Form name rest (c :: segment) := by
  obtain ⟨margin, pairs, rfl, hmargin, hname, hpairs⟩ := h
  exact ⟨c :: margin, pairs, rfl, .blank hblank hmargin, hname, hpairs⟩

theorem Form.pair {quote : Char} (hquote : quote = '\'' ∨ quote = '"') (h : Form name rest segment) :
    Form name rest (quote :: quote :: segment) := by
  obtain ⟨margin, pairs, rfl, hmargin, hname, hpairs⟩ := h
  exact ⟨quote :: quote :: margin, pairs, rfl, .pair hquote hmargin, hname, hpairs⟩

/-- Behind the name there is a delimiter: a quote, or the `=`. -/
theorem Hollow.starts {pairs : Text} (h : Hollow pairs) (rest : Text) :
    ∃ c r, pairs ++ '=' :: rest = c :: r ∧ Token.isDelimiter c = true := by
  cases h with
  | nil => exact ⟨'=', rest, rfl, rfl⟩
  | pair hquote _ =>
    refine ⟨_, _, rfl, ?_⟩
    rcases hquote with rfl | rfl
    · rfl
    · rfl

end Assignment

/-! ## From the form to the words -/

namespace Assignment

variable {vars : Variables} {name rest segment : Text}

open Quoting (bare)

theorem Margin.words (vars : Variables) {margin : Text} (h : Margin margin) :
    ∃ blanks : List Word, (∀ w ∈ blanks, w.isBlank = true) ∧ ∀ r,
      bare.words vars (Token.scan (margin ++ r)) = (blanks ++ ·) <$> bare.words vars (Token.scan r) := by
  induction h with
  | nil => exact ⟨[], by simp, fun r => (id_map _).symm⟩
  | @blank c margin hblank _ ih =>
    obtain ⟨blanks, hblanks, hwords⟩ := ih
    refine ⟨.bare [c] :: blanks, List.forall_mem_cons.mpr ⟨hblank, hblanks⟩, fun r => ?_⟩
    rw [List.cons_append, Quoting.words_scan_blank hblank, hwords, Functor.map_map]
    rfl
  | pair hquote _ ih =>
    obtain ⟨blanks, hblanks, hwords⟩ := ih
    refine ⟨blanks, hblanks, fun r => ?_⟩
    rcases hquote with rfl | rfl
    · exact hwords r
    · exact hwords r

theorem Hollow.words {pairs : Text} (h : Hollow pairs) (r : Text) :
    bare.words vars (Token.scan (pairs ++ r)) = bare.words vars (Token.scan r) := by
  induction h with
  | nil => rfl
  | pair hquote _ ih =>
    rcases hquote with rfl | rfl
    · exact ih
    · exact ih

/-- The words of a segment of the form: blanks, the name, the `=`, and the words of what follows it. -/
theorem words_of_form (vars : Variables) (h : Form name rest segment) :
    ∃ blanks : List Word, (∀ w ∈ blanks, w.isBlank = true) ∧
      bare.words vars (Token.scan segment) =
        (fun words => blanks ++ .bare name :: .bare ['='] :: words) <$> bare.words vars (Token.scan rest) := by
  obtain ⟨margin, pairs, rfl, hmargin, hname, hpairs⟩ := h
  obtain ⟨blanks, hblanks, hwords⟩ := hmargin.words vars
  refine ⟨blanks, hblanks, ?_⟩
  have hequal : bare.words vars (Token.scan (pairs ++ '=' :: rest)) =
      (.bare ['='] :: ·) <$> bare.words vars (Token.scan rest) := by
    rw [hpairs.words, Quoting.words_scan_emit rfl rfl]
    rfl
  have hbound : bare.words vars (Token.scan (name ++ (pairs ++ '=' :: rest))) =
      (.bare name :: ·) <$> bare.words vars (Token.scan (pairs ++ '=' :: rest)) := by
    obtain ⟨c, r, hstart, hc⟩ := hpairs.starts rest
    rw [hstart, Token.scan_append_delimiter hc, Token.scan_name hname, List.singleton_append,
      Quoting.words_emit (Quoting.action_word (Token.isWord_name hname) _), Token.scan_delimiter hc]
    rfl
  rw [hwords, hbound, hequal, Functor.map_map, Functor.map_map]

/-- Such words assign the texts of the last of them, without the blanks at their end. -/
theorem ofWords_of_form {blanks words : List Word} (hblanks : ∀ w ∈ blanks, w.isBlank = true)
    (hname : Command.isName name = true) :
    Command.ofWords (blanks ++ .bare name :: .bare ['='] :: words) =
      .assign name ((words.rdropWhile Word.isBlank).flatMap Word.text) := by
  induction blanks with
  | nil =>
    have htrim := Command.trim_cons (Word.isBlank_name hname) (.bare ['='] :: words)
    rw [Command.rdropWhile_cons rfl] at htrim
    exact Command.ofWords_assign_iff.mpr ⟨_, _, htrim, hname, rfl, rfl⟩
  | cons w blanks ih =>
    obtain ⟨hw, hblanks⟩ := List.forall_mem_cons.mp hblanks
    have hsame : Command.ofWords (w :: (blanks ++ .bare name :: .bare ['='] :: words)) =
        Command.ofWords (blanks ++ .bare name :: .bare ['='] :: words) := by
      rw [Command.ofWords, Command.trim_blank hw, Command.ofWords]
    rw [List.cons_append, hsame]
    exact ih hblanks

/-! ## From the words to the form -/

/-- Inside quotes, a text closes them at once, or its first word is quoted. -/
theorem words_inside {q : Quoting} {quote : Char} (hq : q.closing? = some quote) {text : Text} {ws : List Word}
    (h : q.words vars (Token.scan text) = .ok ws) :
    (∃ r, text = quote :: r ∧ bare.words vars (Token.scan r) = .ok ws) ∨ ∃ w us, ws = w :: us ∧ w.Literal := by
  have hliteral : ∀ t, (q.literal t).Literal ∧ (q.value t).Literal := by
    intro t
    cases q with
    | bare => cases hq
    | single => exact ⟨⟨t, Or.inl rfl⟩, ⟨t, Or.inl rfl⟩⟩
    | double => exact ⟨⟨t, Or.inl rfl⟩, ⟨t, Or.inl rfl⟩⟩
  cases text using q.line_cases with
  | nil =>
    obtain ⟨rfl, -⟩ := Quoting.finish_eq_ok h
    cases hq
  | word c r hc =>
    rw [Quoting.words_scan_word hc] at h
    obtain ⟨us, -, rfl⟩ := Quoting.exists_ok_of_map h
    exact Or.inr ⟨_, us, rfl, (hliteral _).1⟩
  | switch next c r hc ha =>
    rw [Quoting.words_scan_switch hc ha] at h
    have hclose : c = quote ∧ next = bare := by cases q <;> grind [Quoting.action, Quoting.closing?]
    obtain ⟨rfl, rfl⟩ := hclose
    exact Or.inl ⟨r, rfl, h⟩
  | emit c r hc ha =>
    rw [Quoting.words_scan_emit hc ha] at h
    obtain ⟨us, -, rfl⟩ := Quoting.exists_ok_of_map h
    exact Or.inr ⟨_, us, rfl, (hliteral _).1⟩
  | expand r hrun ha =>
    rw [Quoting.words_scan_expand hrun ha] at h
    obtain ⟨us, -, rfl⟩ := Quoting.exists_ok_of_map h
    exact Or.inr ⟨_, us, rfl, (hliteral _).2⟩

/-- How a text begins that has words: with an empty quotation, which gives none, with a token that is
kept, or with something that gives a word that is literal. -/
theorem words_cases {text : Text} {ws : List Word} (h : bare.words vars (Token.scan text) = .ok ws) :
    (text = [] ∧ ws = []) ∨
      (∃ quote r, (quote = '\'' ∨ quote = '"') ∧ text = quote :: quote :: r ∧
        bare.words vars (Token.scan r) = .ok ws) ∨
      (∃ token r us, text = token ++ r ∧ token ≠ [] ∧ ws = .bare token :: us ∧
        bare.words vars (Token.scan r) = .ok us) ∨
      ∃ w us, ws = w :: us ∧ w.Literal := by
  cases text using bare.line_cases with
  | nil =>
    obtain ⟨-, rfl⟩ := Quoting.finish_eq_ok h
    exact Or.inl ⟨rfl, rfl⟩
  | word c r hc =>
    rw [Quoting.words_scan_word hc] at h
    obtain ⟨us, hus, rfl⟩ := Quoting.exists_ok_of_map h
    have hsplit : c :: r = (c :: Token.run r) ++ Token.afterRun r := by
      rw [List.cons_append, Token.run, Token.afterRun, List.takeWhile_append_dropWhile]
    exact Or.inr (Or.inr (Or.inl ⟨_, _, us, hsplit, List.cons_ne_nil _ _, rfl, hus⟩))
  | switch next c r hc ha =>
    rw [Quoting.words_scan_switch hc ha] at h
    have hopen : (c = '\'' ∨ c = '"') ∧ next.closing? = some c := by grind [Quoting.action, Quoting.closing?]
    rcases words_inside hopen.2 h with ⟨r, rfl, hr⟩ | hliteral
    · exact Or.inr (Or.inl ⟨c, r, hopen.1, rfl, hr⟩)
    · exact Or.inr (Or.inr (Or.inr hliteral))
  | emit c r hc ha =>
    rw [Quoting.words_scan_emit hc ha] at h
    obtain ⟨us, hus, rfl⟩ := Quoting.exists_ok_of_map h
    exact Or.inr (Or.inr (Or.inl ⟨[c], r, us, rfl, List.cons_ne_nil _ _, rfl, hus⟩))
  | expand r hrun ha =>
    rw [Quoting.words_scan_expand hrun ha] at h
    obtain ⟨us, -, rfl⟩ := Quoting.exists_ok_of_map h
    exact Or.inr (Or.inr (Or.inr ⟨_, us, rfl, _, Or.inr rfl⟩))

/-- A first word that is an unquoted `=` comes from that character, behind empty quotations. -/
theorem hollow_of_words {eq : Word} {us : List Word} (heq : eq.isEqual = true) (text : Text)
    (h : bare.words vars (Token.scan text) = .ok (eq :: us)) :
    ∃ pairs rest, text = pairs ++ '=' :: rest ∧ Hollow pairs := by
  induction text using (measure List.length).wf.induction with
  | _ text ih =>
  rcases words_cases h with ⟨-, hnil⟩ | ⟨quote, r, hquote, rfl, hr⟩ | ⟨token, r, vs, rfl, -, hfirst, -⟩ |
    ⟨w, vs, hfirst, hliteral⟩
  · cases hnil
  · have hlt : r.length < (quote :: quote :: r).length := by simp only [List.length_cons]; omega
    obtain ⟨pairs, rest, rfl, hpairs⟩ := ih r hlt hr
    exact ⟨quote :: quote :: pairs, rest, rfl, .pair hquote hpairs⟩
  · obtain ⟨rfl, rfl⟩ := List.cons.inj hfirst
    obtain rfl : token = ['='] := eq_of_beq heq
    exact ⟨[], r, rfl, .nil⟩
  · obtain ⟨rfl, rfl⟩ := List.cons.inj hfirst
    obtain ⟨t, rfl | rfl⟩ := hliteral
    · cases heq
    · cases heq

/-- A segment whose words assign has the form. -/
theorem form_of_words {ws : List Word} {value : Text} (text : Text) (h : bare.words vars (Token.scan text) = .ok ws)
    (hassign : Command.ofWords ws = .assign name value) : ∃ rest, Form name rest text := by
  obtain ⟨eq, more, htrim, hname, heq, -⟩ := Command.ofWords_assign_iff.mp hassign
  clear hassign
  -- The words before the name are dropped one by one, with the text that they come from.
  induction text using (measure List.length).wf.induction generalizing ws with
  | _ text ih =>
  rcases words_cases h with ⟨-, rfl⟩ | ⟨quote, r, hquote, rfl, hr⟩ | ⟨token, r, us, rfl, htoken, rfl, hr⟩ |
    ⟨w, us, rfl, hliteral⟩
  · cases htrim
  · have hlt : r.length < (quote :: quote :: r).length := by simp only [List.length_cons]; omega
    obtain ⟨rest, hform⟩ := ih r hlt hr htrim
    exact ⟨rest, hform.pair hquote⟩
  · cases hblank : Token.isBlank token with
    | true =>
      have hlt : r.length < (token ++ r).length := by
        rw [List.length_append]
        have := List.length_pos_of_ne_nil htoken
        omega
      rw [Command.trim_blank (w := .bare token) hblank] at htrim
      obtain ⟨rest, hform⟩ := ih r hlt hr htrim
      match token, hblank with
      | [c], hc => exact ⟨rest, hform.blank hc⟩
    | false =>
      rw [Command.trim_cons (w := .bare token) hblank] at htrim
      obtain ⟨hbound, hmore⟩ := List.cons.inj htrim
      obtain rfl : token = name := Word.bare.inj hbound
      -- The `=` is the next word even if nothing is trimmed at the end.
      have hprefix : eq :: more <+: us := hmore ▸ List.rdropWhile_prefix _ _
      obtain ⟨tail, rfl⟩ := hprefix
      obtain ⟨pairs, rest, rfl, hpairs⟩ := hollow_of_words heq r hr
      exact ⟨rest, [], pairs, rfl, .nil, hname, hpairs⟩
  · rw [Command.trim_cons hliteral.isBlank] at htrim
    obtain ⟨t, rfl | rfl⟩ := hliteral
    · cases htrim
    · cases htrim

/-! ## The stages of a line -/

structure Decides (vars : Variables) (segment : Text) (stage : Stage) : Prop where
  assigns : ∀ name, (∃ value, Command.ofStage stage = .assign name value) ↔ ∃ rest, Form name rest segment
  /-- The value is put together from the words behind the `=`, without the blanks at their end. -/
  value : ∀ name rest, Form name rest segment → ∃ blanks words, (∀ w ∈ blanks, w.isBlank = true) ∧
    Word.ofTokens vars (Token.scan rest) = .ok words ∧
    stage.words = blanks ++ .bare name :: .bare ['='] :: words ∧
    Command.ofStage stage = .assign name ((words.rdropWhile Word.isBlank).flatMap Word.text)
  calls : (∀ name rest, ¬Form name rest segment) → ∃ argv, Command.ofStage stage = .call argv

/-- A stage with the words of a segment asks for what the segment says. -/
theorem decides_of_words {stage : Stage} (h : Word.ofTokens vars (Token.scan segment) = .ok stage.words) :
    Decides vars segment stage := by
  have hform : ∀ name value, Command.ofStage stage = .assign name value → ∃ rest, Form name rest segment :=
    fun name value hassign => form_of_words segment h hassign
  have hvalue : ∀ name rest, Form name rest segment → ∃ blanks words, (∀ w ∈ blanks, w.isBlank = true) ∧
      Word.ofTokens vars (Token.scan rest) = .ok words ∧
      stage.words = blanks ++ .bare name :: .bare ['='] :: words ∧
      Command.ofStage stage = .assign name ((words.rdropWhile Word.isBlank).flatMap Word.text) := by
    intro name rest hsegment
    obtain ⟨blanks, hblanks, hall⟩ := words_of_form vars hsegment
    obtain ⟨_, _, _, _, hname, _⟩ := hsegment
    obtain ⟨words, hrest, hstage⟩ := Quoting.exists_ok_of_map (hall.symm.trans h)
    refine ⟨blanks, words, hblanks, hrest, hstage.symm, ?_⟩
    rw [Command.ofStage, ← hstage]
    exact ofWords_of_form hblanks hname
  refine ⟨fun name => ⟨?_, ?_⟩, hvalue, ?_⟩
  · rintro ⟨value, hassign⟩
    exact hform name value hassign
  · rintro ⟨rest, hsegment⟩
    obtain ⟨_, words, _, _, _, hassign⟩ := hvalue name rest hsegment
    exact ⟨_, hassign⟩
  · intro hnone
    cases hcommand : Command.ofStage stage with
    | assign name value =>
      obtain ⟨rest, hsegment⟩ := hform name value hcommand
      exact absurd hsegment (hnone name rest)
    | call argv => exact ⟨argv, rfl⟩

end Assignment

namespace Stage

open Assignment (Form Decides)

/-- In a line that has stages, nothing is in no segment, and a stage assigns exactly if its segment has
the form: to the name there, and the texts of the words behind the `=`, without the blanks at their end.
Every other stage is a call. -/
theorem ofLine_assigns {vars : Variables} {line : Text} {stages : List Stage} (h : ofLine vars line = .ok stages) :
    Text.join ['|'] (Segment.ofLine line) = line ∧ List.Forall₂ (Decides vars) (Segment.ofLine line) stages := by
  have hwords := ofLine_segments h
  exact ⟨Segment.join_cut .bare line, hwords.imp fun _ _ => Assignment.decides_of_words⟩

/-- An assignment behind blanks and quotes, with a quoted `|` in its value, and a quoted name. -/
def mixedLine : Text := " ''\tx\"\"= a $u 'b|c' | 'y'=1".toList

theorem ofLine_assigns_mixed :
    let vars : Variables := ⟨[(['u'], " v".toList)]⟩
    ∃ first second, ofLine vars mixedLine = .ok [first, second] ∧
      Form ['x'] " a $u 'b|c' ".toList " ''\tx\"\"= a $u 'b|c' ".toList ∧
      Command.ofStage first = .assign ['x'] " a  v b|c".toList ∧
      (∀ name rest, ¬Form name rest " 'y'=1".toList) ∧
      Command.ofStage second = .call ["y=1".toList] := by
  intro vars
  obtain ⟨-, hall⟩ := ofLine_assigns (show ofLine vars mixedLine = .ok _ from rfl)
  obtain ⟨hfirst, hall⟩ := List.forall₂_cons.mp hall
  obtain ⟨hsecond, -⟩ := List.forall₂_cons.mp hall
  have hform : Form ['x'] " a $u 'b|c' ".toList " ''\tx\"\"= a $u 'b|c' ".toList :=
    ⟨" ''\t".toList, "\"\"".toList, rfl, .blank rfl (.pair (Or.inl rfl) (.blank rfl .nil)), rfl, .pair (Or.inr rfl) .nil⟩
  obtain ⟨_, words, -, hwords, -, hassign⟩ := hfirst.value _ _ hform
  refine ⟨_, _, rfl, hform, ?_, fun name rest hquoted => ?_, rfl⟩
  · cases hwords
    exact hassign
  · obtain ⟨value, hassign⟩ := (hsecond.assigns name).mpr ⟨rest, hquoted⟩
    cases hassign

end Stage

end LineShell
