import LineShell.Proofs.Passes
import Mathlib.Data.List.Forall2

/-!
The values of variables cannot change what a line is. Two runs over the same tokens, with any two
stores, go through the same states and differ in the texts of values only, at every pass.

  - `words_alike`: both fail, with the same quote, or both give words alike.
  - `split_alike` / `ofWords_alike`: words alike give stages alike, and those ask for commands alike.
  - `length_call`: without an unquoted reference, the number of arguments is the same, too.
  - `ofTokens_alike`: all of it for a list of tokens, whether a line has such tokens or not.
-/

namespace LineShell

/-- Words that differ in their texts only, and not even there if they are unquoted text. -/
inductive Word.Alike : Word → Word → Prop
  | bare (t : Text) : Alike (.bare t) (.bare t)
  | quoted (t u : Text) : Alike (.quoted t) (.quoted u)
  | expansion (t u : Text) : Alike (.expansion t) (.expansion u)

/-- Commands of one kind; assignments are to the same name. -/
inductive Command.Alike : Command → Command → Prop
  | assign (name t u : Text) : Alike (.assign name t) (.assign name u)
  | call (argv argv' : List Text) : Alike (.call argv) (.call argv')

def Word.NoExpansion (words : List Word) : Prop := ∀ w ∈ words, ∀ t, w ≠ .expansion t

/-- Stages that cannot be told apart by whether they are empty, by what they ask for, or, without
unquoted references, by how many arguments they have. -/
structure Stage.Alike (a b : Stage) : Prop where
  words : List.Forall₂ Word.Alike a.words b.words
  empty : a.isEmpty = b.isEmpty
  command : Command.Alike (Command.ofStage a) (Command.ofStage b)
  arguments : Word.NoExpansion a.words → ∀ argv argv', Command.ofStage a = .call argv →
    Command.ofStage b = .call argv' → argv.length = argv'.length

/-! ## Words -/

namespace Word.Alike

variable {a b : Word}

theorem isBlank_eq (h : Alike a b) : a.isBlank = b.isBlank := by cases h <;> rfl

theorem isPipe_eq (h : Alike a b) : a.isPipe = b.isPipe := by cases h <;> rfl

theorem isEqual_eq (h : Alike a b) : a.isEqual = b.isEqual := by cases h <;> rfl

end Word.Alike

namespace Quoting

/-- Two runs that fail with the same quote, or give words alike. -/
inductive Alike : Except LineError (List Word) → Except LineError (List Word) → Prop
  | error (quote : Char) : Alike (.error (.unterminatedQuote quote)) (.error (.unterminatedQuote quote))
  | ok {ws us : List Word} : List.Forall₂ Word.Alike ws us → Alike (.ok ws) (.ok us)

theorem Alike.cons {x y : Word} (hw : Word.Alike x y) {a b : Except LineError (List Word)} (h : Alike a b) :
    Alike ((x :: ·) <$> a) ((y :: ·) <$> b) := by
  cases h with
  | error quote => exact .error quote
  | ok hws => exact .ok (.cons hw hws)

theorem finish_alike (q : Quoting) : Alike q.finish q.finish := by
  cases q with
  | bare => exact .ok .nil
  | single => exact .error _
  | double => exact .error _

theorem literal_alike (q : Quoting) (t : Text) : Word.Alike (q.literal t) (q.literal t) := by
  cases q with
  | bare => exact .bare t
  | single => exact .quoted t t
  | double => exact .quoted t t

theorem value_alike (q : Quoting) (t u : Text) : Word.Alike (q.value t) (q.value u) := by
  cases q with
  | bare => exact .expansion t u
  | single => exact .quoted t u
  | double => exact .quoted t u

/-- What the machine does with a token depends on tokens alone, so both runs do the same. -/
theorem words_alike (v w : Variables) (q : Quoting) (tokens : List Token) :
    Alike (q.words v tokens) (q.words w tokens) := by
  induction tokens using (measure List.length).wf.induction generalizing q with
  | _ tokens ih =>
  match tokens with
  | [] => exact finish_alike q
  | token :: rest =>
    cases h : q.action token rest.head? with
    | switch next =>
      rw [words_switch h, words_switch h]
      exact ih rest (Nat.lt_succ_self _) next
    | emit =>
      rw [words_emit h, words_emit h]
      exact (ih rest (Nat.lt_succ_self _) q).cons (literal_alike q token)
    | expand =>
      match rest with
      | [] => exact absurd (isReference_of_expand h) (by simp [isReference])
      | name :: rest =>
        rw [words_expand h, words_expand h]
        have hlt : rest.length < (token :: name :: rest).length := by simp only [List.length_cons]; omega
        exact (ih rest hlt q).cons (value_alike q _ _)

end Quoting

/-! ## Commands -/

namespace Command

theorem dropWhile_alike {ws us : List Word} (h : List.Forall₂ Word.Alike ws us) :
    List.Forall₂ Word.Alike (ws.dropWhile Word.isBlank) (us.dropWhile Word.isBlank) := by
  induction h with
  | nil => exact .nil
  | @cons a b _ _ hw hrest ih =>
    rw [List.dropWhile_cons, List.dropWhile_cons, hw.isBlank_eq]
    split
    · exact ih
    · exact .cons hw hrest

theorem trim_alike {ws us : List Word} (h : List.Forall₂ Word.Alike ws us) :
    List.Forall₂ Word.Alike (trim ws) (trim us) := by
  unfold trim
  rw [List.forall₂_reverse_iff]
  apply dropWhile_alike
  rw [List.forall₂_reverse_iff]
  exact dropWhile_alike h

/-- Whether a stage assigns, and to what, is up to unquoted text. -/
theorem ofWords_alike {ws us : List Word} (h : List.Forall₂ Word.Alike ws us) :
    Command.Alike (ofWords ws) (ofWords us) := by
  have ht := trim_alike h
  unfold ofWords
  generalize trim ws = ws at ht
  generalize trim us = us at ht
  cases ht with
  | nil => exact .call _ _
  | cons hfirst hrest =>
    cases hfirst with
    | quoted t u => exact .call _ _
    | expansion t u => exact .call _ _
    | bare name =>
      cases hrest with
      | nil => exact .call _ _
      | cons hsecond hrest =>
        simp only [hsecond.isEqual_eq]
        split
        · exact .assign _ _ _
        · exact .call _ _

/-- The words of a call are grouped as they stand between the blanks at both ends. -/
theorem ofWords_call {words : List Word} {argv : List Text} (h : ofWords words = .call argv) :
    argv = arguments (trim words) := by
  unfold ofWords at h
  split at h
  · next name eq rest heq =>
    split at h
    · cases h
    · rw [heq]
      exact (Command.call.inj h).symm
  · exact (Command.call.inj h).symm

theorem mem_of_mem_trim {words : List Word} {w : Word} (h : w ∈ trim words) : w ∈ words := by
  unfold trim at h
  have h := (List.dropWhile_sublist _).mem (List.mem_reverse.mp h)
  exact (List.dropWhile_sublist _).mem (List.mem_reverse.mp h)

/-- Without an unquoted reference, blanks are unquoted text, and so they are where they were. -/
theorem length_argumentsFrom {ws us : List Word} (h : List.Forall₂ Word.Alike ws us) (hno : Word.NoExpansion ws)
    {c d : Option Text} (hcd : c.toList.length = d.toList.length) :
    (argumentsFrom c ws).length = (argumentsFrom d us).length := by
  induction h generalizing c d with
  | nil => exact hcd
  | @cons a b ws us hw _ ih =>
    have hrest : Word.NoExpansion ws := fun w hmem => hno w (List.mem_cons_of_mem _ hmem)
    cases hw with
    | expansion t u => exact absurd rfl (hno _ (List.mem_cons_self ..) t)
    | quoted t u => exact ih hrest rfl
    | bare t =>
      rw [argumentsFrom, argumentsFrom]
      split
      · rw [List.length_append, List.length_append, hcd, ih hrest rfl]
      · exact ih hrest rfl

/-- Without an unquoted reference, a call has as many arguments with any store. -/
theorem length_call {ws us : List Word} (h : List.Forall₂ Word.Alike ws us) (hno : Word.NoExpansion ws)
    {argv argv' : List Text} (hws : ofWords ws = .call argv) (hus : ofWords us = .call argv') :
    argv.length = argv'.length := by
  rw [ofWords_call hws, ofWords_call hus]
  exact length_argumentsFrom (trim_alike h) (fun w hw => hno w (mem_of_mem_trim hw)) rfl

end Command

/-! ## Stages -/

namespace Stage

theorem isEmpty_eq {ws us : List Word} (h : List.Forall₂ Word.Alike ws us) :
    (Stage.mk ws).isEmpty = (Stage.mk us).isEmpty := by
  unfold isEmpty
  induction h with
  | nil => rfl
  | cons hw _ ih => rw [List.all_cons, List.all_cons, hw.isBlank_eq, ih]

theorem Alike.of_words {a b : Stage} (h : List.Forall₂ Word.Alike a.words b.words) : Alike a b where
  words := h
  empty := isEmpty_eq h
  command := Command.ofWords_alike h
  arguments hno _ _ ha hb := Command.length_call h hno ha hb

theorem consFirst_alike {a b : Word} (hw : Word.Alike a b) {xs ys : List Stage} (h : List.Forall₂ Alike xs ys) :
    List.Forall₂ Alike (consFirst a xs) (consFirst b ys) := by
  cases h with
  | nil => exact .cons (.of_words (.cons hw .nil)) .nil
  | cons hfirst hrest => exact .cons (.of_words (.cons hw hfirst.words)) hrest

/-- Only unquoted text is a separator, and that is the same in both. -/
theorem split_alike {ws us : List Word} (h : List.Forall₂ Word.Alike ws us) :
    List.Forall₂ Alike (split ws) (split us) := by
  have hnil : Alike ⟨[]⟩ ⟨[]⟩ := .of_words .nil
  induction h with
  | nil => exact .cons hnil .nil
  | @cons a b _ _ hw _ ih =>
    cases hp : a.isPipe with
    | true =>
      rw [split_pipe hp, split_pipe (hw.isPipe_eq ▸ hp)]
      exact .cons hnil ih
    | false =>
      rw [split_other hp, split_other (hw.isPipe_eq ▸ hp)]
      exact consFirst_alike hw ih

end Stage

/-! ## Lines -/

/-- **No injection.** Whatever the tokens and the two stores are, both runs fail with the same quote, or
they give words alike, and stages alike of these. -/
theorem ofTokens_alike (v w : Variables) (tokens : List Token) :
    (∃ quote, Word.ofTokens v tokens = .error (.unterminatedQuote quote) ∧
      Word.ofTokens w tokens = .error (.unterminatedQuote quote)) ∨
    ∃ ws us, Word.ofTokens v tokens = .ok ws ∧ Word.ofTokens w tokens = .ok us ∧
      List.Forall₂ Word.Alike ws us ∧ List.Forall₂ Stage.Alike (Stage.split ws) (Stage.split us) := by
  have h := Quoting.words_alike v w .bare tokens
  unfold Word.ofTokens
  generalize Quoting.bare.words v tokens = a at h
  generalize Quoting.bare.words w tokens = b at h
  cases h with
  | error quote => exact .inl ⟨quote, rfl, rfl⟩
  | @ok ws us hws => exact .inr ⟨ws, us, rfl, rfl, hws, Stage.split_alike hws⟩

end LineShell
