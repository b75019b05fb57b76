import LineShell.Proofs.Segments

/-!
Lines put together. A line whose quotes are closed is read as ever when a `|` and any other line come
after it, and the other line is read as if it stood alone. Blanks around a line change the words of its
first and of its last stage, but nothing that these stages ask for.

  - `ofLine_append_pipe`: the stages of two lines with a `|` between them.
  - `words_padded`: the words of a line with blanks around it.
  - `split_prepend_blanks` / `split_append_blanks`: blanks around words change one stage at either end.
  - `ofLine_joined`: reading a line behind another one, and reading it with blanks around it.
-/

namespace LineShell

/-! ## A line behind another one -/

namespace Stage

variable {vars : Variables} {line : Text} {stages : List Stage}

/-- Behind a line that has stages and a `|`, another line fails as it does alone, or adds its stages. -/
theorem ofLine_append_pipe (h : ofLine vars line = .ok stages) (other : Text) :
    ofLine vars (line ++ '|' :: other) = (stages ++ ·) <$> ofLine vars other := by
  obtain ⟨ws, hws, rfl⟩ := Quoting.exists_ok_of_map h
  have hwords : Word.ofTokens vars (Token.scan (line ++ '|' :: other)) =
      (ws ++ .bare ['|'] :: ·) <$> Word.ofTokens vars (Token.scan other) :=
    Quoting.words_append_pipe hws other
  rw [ofLine, hwords, ofLine, Functor.map_map, Functor.map_map]
  simp only [split_append (show (Word.bare ['|']).isPipe = true from rfl)]

end Stage

/-! ## Blanks around words -/

def Word.blanks (pad : Text) : List Word := pad.map fun c => .bare [c]

theorem Word.isBlank_of_mem_blanks {pad : Text} (h : ∀ c ∈ pad, Text.isBlank c = true) :
    ∀ w ∈ blanks pad, w.isBlank = true := by
  intro w hw
  obtain ⟨c, hc, rfl⟩ := List.mem_map.mp hw
  exact h c hc

namespace Quoting

open Token (isDelimiter isWord)

variable {vars : Variables} {line pad : Text} {ws : List Word}

/-- Blanks before a line are words of their own. -/
theorem words_prepend_blanks (vars : Variables) (h : ∀ c ∈ pad, Text.isBlank c = true) (line : Text) :
    bare.words vars (Token.scan (pad ++ line)) =
      (Word.blanks pad ++ ·) <$> bare.words vars (Token.scan line) := by
  induction pad with
  | nil => exact (id_map _).symm
  | cons c pad ih =>
    obtain ⟨hc, hpad⟩ := List.forall_mem_cons.mp h
    rw [List.cons_append, words_scan_blank hc, ih hpad, Functor.map_map]
    rfl

/-- So are blanks behind a line, also if it ends in a word or in a `$`. -/
theorem words_append_blanks (h : ∀ c ∈ pad, Text.isBlank c = true)
    (hws : bare.words vars (Token.scan line) = .ok ws) :
    bare.words vars (Token.scan (line ++ pad)) = .ok (ws ++ Word.blanks pad) := by
  cases pad with
  | nil => simpa [Word.blanks] using hws
  | cons c pad =>
    have hc : isDelimiter c = true := by
      rw [isDelimiter, (List.forall_mem_cons.mp h).1, Bool.or_true]
    have hword : isWord [c] = false := by simp [isWord, hc]
    have hblanks : bare.words vars (Token.scan (c :: pad)) = .ok (Word.blanks (c :: pad)) := by
      have hall := words_prepend_blanks vars h []
      rw [List.append_nil] at hall
      rw [hall]
      exact congrArg Except.ok (List.append_nil _)
    rw [Token.scan_append_delimiter hc, words_append hword hws, ← Token.scan_delimiter hc, hblanks]
    rfl

theorem words_padded {before after : Text} (hbefore : ∀ c ∈ before, Text.isBlank c = true)
    (hafter : ∀ c ∈ after, Text.isBlank c = true) (hws : bare.words vars (Token.scan line) = .ok ws) :
    bare.words vars (Token.scan (before ++ line ++ after)) =
      .ok (Word.blanks before ++ (ws ++ Word.blanks after)) := by
  rw [List.append_assoc, words_prepend_blanks vars hbefore, words_append_blanks hafter hws]
  rfl

end Quoting

/-! ## Blanks around stages -/

namespace Stage

variable {blanks : List Word}

/-- Blanks before words are the first words of the first stage. -/
theorem split_prepend_blanks (h : ∀ w ∈ blanks, w.isBlank = true) (words : List Word) :
    ∃ first rest, split words = first :: rest ∧ split (blanks ++ words) = ⟨blanks ++ first.words⟩ :: rest := by
  induction blanks with
  | nil =>
    obtain ⟨first, rest, hsplit⟩ := List.exists_cons_of_ne_nil (split_ne_nil words)
    exact ⟨first, rest, hsplit, hsplit⟩
  | cons w blanks ih =>
    obtain ⟨hw, hblanks⟩ := List.forall_mem_cons.mp h
    obtain ⟨first, rest, hsplit, hpadded⟩ := ih hblanks
    refine ⟨first, rest, hsplit, ?_⟩
    rw [List.cons_append, split_other (Word.isPipe_of_isBlank hw), hpadded]
    rfl

/-- Blanks behind words are the last words of the last stage. -/
theorem split_append_blanks (h : ∀ w ∈ blanks, w.isBlank = true) (words : List Word) :
    ∃ front last, split words = front ++ [last] ∧ split (words ++ blanks) = front ++ [⟨last.words ++ blanks⟩] := by
  induction words with
  | nil =>
    have hpipe : ∀ w ∈ blanks, w.isPipe = false := fun w hw => Word.isPipe_of_isBlank (h w hw)
    exact ⟨[], ⟨[]⟩, rfl, split_of_no_pipe hpipe⟩
  | cons w words ih =>
    obtain ⟨front, last, hsplit, hpadded⟩ := ih
    cases hw : w.isPipe with
    | true =>
      refine ⟨⟨[]⟩ :: front, last, ?_, ?_⟩
      · rw [split_pipe hw, hsplit, List.cons_append]
      · rw [List.cons_append, split_pipe hw, hpadded, List.cons_append]
    | false =>
      rw [List.cons_append, split_other hw, split_other hw, hsplit, hpadded]
      cases front with
      | nil => exact ⟨[], ⟨w :: last.words⟩, rfl, rfl⟩
      | cons first front => exact ⟨⟨w :: first.words⟩ :: front, last, rfl, rfl⟩

theorem isEmpty_prepend_blanks (h : ∀ w ∈ blanks, w.isBlank = true) (words : List Word) :
    (Stage.mk (blanks ++ words)).isEmpty = (Stage.mk words).isEmpty := by
  have hall : blanks.all Word.isBlank = true := List.all_eq_true.mpr h
  simp [isEmpty, hall]

theorem isEmpty_append_blanks (h : ∀ w ∈ blanks, w.isBlank = true) (words : List Word) :
    (Stage.mk (words ++ blanks)).isEmpty = (Stage.mk words).isEmpty := by
  have hall : blanks.all Word.isBlank = true := List.all_eq_true.mpr h
  simp [isEmpty, hall]

theorem ofStage_prepend_blanks (h : ∀ w ∈ blanks, w.isBlank = true) (words : List Word) :
    Command.ofStage ⟨blanks ++ words⟩ = Command.ofStage ⟨words⟩ := by
  have htrim : Command.trim (blanks ++ words) = Command.trim words := by
    rw [Command.trim, List.dropWhile_append_of_pos h, Command.trim]
  simp only [Command.ofStage, Command.ofWords, htrim]

theorem ofStage_append_blanks (h : ∀ w ∈ blanks, w.isBlank = true) (words : List Word) :
    Command.ofStage ⟨words ++ blanks⟩ = Command.ofStage ⟨words⟩ := by
  simp only [Command.ofStage, Command.ofWords, Command.trim_append_blanks h]

/-- What a stage shows of itself: whether it is empty, and what it asks for. -/
def face (stage : Stage) : Bool × Command := (stage.isEmpty, Command.ofStage stage)

/-- Blanks at both ends of words change no stage's face. -/
theorem faces_padded {left right : List Word} (hleft : ∀ w ∈ left, w.isBlank = true)
    (hright : ∀ w ∈ right, w.isBlank = true) (words : List Word) :
    (split (left ++ (words ++ right))).map face = (split words).map face := by
  obtain ⟨first, rest, hsplit, hpadded⟩ := split_prepend_blanks hleft (words ++ right)
  obtain ⟨front, last, hwords, happended⟩ := split_append_blanks hright words
  have hfirst : face ⟨left ++ first.words⟩ = face first :=
    congrArg₂ Prod.mk (isEmpty_prepend_blanks hleft first.words) (ofStage_prepend_blanks hleft first.words)
  have hlast : face ⟨last.words ++ right⟩ = face last :=
    congrArg₂ Prod.mk (isEmpty_append_blanks hright last.words) (ofStage_append_blanks hright last.words)
  calc (split (left ++ (words ++ right))).map face
      = (split (words ++ right)).map face := by rw [hpadded, hsplit, List.map_cons, List.map_cons, hfirst]
    _ = (split words).map face := by
      rw [happended, hwords, List.map_append, List.map_append, List.map_singleton, hlast, List.map_singleton]

/-! ## Lines -/

/-- Reading a line that has stages. Another line behind it and a `|` fails exactly as it does alone, and
adds its stages if it has any. Blanks around the line change neither the number of the stages, nor which
of them are empty, nor what they ask for. -/
theorem ofLine_joined {vars : Variables} {line : Text} {stages : List Stage} (h : ofLine vars line = .ok stages) :
    (∀ other,
      (∀ e, ofLine vars (line ++ '|' :: other) = .error e ↔ ofLine vars other = .error e) ∧
      ∀ more, ofLine vars other = .ok more → ofLine vars (line ++ '|' :: other) = .ok (stages ++ more)) ∧
    ∀ before after, (∀ c ∈ before, Text.isBlank c = true) → (∀ c ∈ after, Text.isBlank c = true) →
      ∃ padded, ofLine vars (before ++ line ++ after) = .ok padded ∧ padded.length = stages.length ∧
        padded.map isEmpty = stages.map isEmpty ∧ padded.map Command.ofStage = stages.map Command.ofStage := by
  refine ⟨fun other => ?_, fun before after hbefore hafter => ?_⟩
  · rw [ofLine_append_pipe h]
    cases ofLine vars other with
    | error cause => exact ⟨fun e => Iff.rfl, fun more hmore => nomatch hmore⟩
    | ok more =>
      refine ⟨fun e => iff_of_false nofun nofun, ?_⟩
      rintro _ ⟨rfl⟩
      rfl
  · obtain ⟨ws, hws, rfl⟩ := Quoting.exists_ok_of_map h
    have hfaces := faces_padded (Word.isBlank_of_mem_blanks hbefore) (Word.isBlank_of_mem_blanks hafter) ws
    refine ⟨split (Word.blanks before ++ (ws ++ Word.blanks after)), ?_, ?_, ?_, ?_⟩
    · rw [ofLine, Word.ofTokens, Quoting.words_padded hbefore hafter hws]
      rfl
    · simpa using congrArg List.length hfaces
    · simpa [Function.comp_def, face] using congrArg (List.map Prod.fst) hfaces
    · simpa [Function.comp_def, face] using congrArg (List.map Prod.snd) hfaces

def openEnded : Text := "echo 'a|b' | x=$u $".toList

/-- The `$` names nothing in the line behind it, and the blanks behind it are no part of the value. -/
theorem ofLine_joined_openEnded :
    let vars : Variables := ⟨[(['u'], " v ".toList)]⟩
    ∃ first second, ofLine vars openEnded = .ok [first, second] ∧
      Command.ofStage second = .assign ['x'] " v  $".toList ∧
      ofLine vars (openEnded ++ '|' :: "u".toList) = .ok [first, second, ⟨[.bare ['u']]⟩] ∧
      ofLine vars (openEnded ++ '|' :: "u'".toList) = .error (.unterminatedQuote '\'') ∧
      ∃ padded, ofLine vars (" \t".toList ++ openEnded ++ " \n".toList) = .ok padded ∧ padded.length = 2 ∧
        padded.map isEmpty = [false, false] ∧
        padded.map Command.ofStage = [Command.ofStage first, .assign ['x'] " v  $".toList] := by
  intro vars
  obtain ⟨hbehind, haround⟩ := ofLine_joined (show ofLine vars openEnded = .ok _ from rfl)
  refine ⟨_, _, rfl, rfl, (hbehind _).2 _ rfl, ((hbehind _).1 _).mpr rfl, ?_⟩
  exact haround _ _ (List.all_eq_true.mp rfl) (List.all_eq_true.mp rfl)

end Stage

end LineShell
