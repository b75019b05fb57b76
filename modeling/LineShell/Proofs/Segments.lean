import LineShell.Proofs.Passes
import Mathlib.Data.List.Forall2

/-!
The segments of a line: the parts of its text between the `|` that stand outside quotes. Which ones
those are depends on the quotes alone, character by character, and not on tokens or words. Each
segment is read on its own: a stage has the words of its segment, as if nothing else were in the line.

  - `join_cut`: nothing is lost by cutting a line into segments.
  - `cut_cases`: a line is one segment, or its first segment, a `|`, and the segments of the rest.
  - `words_of_closed` / `words_of_whole`: a text whose quotes are closed has words, and without a `|`
    outside quotes it has no word that separates.
  - `ofLine_segments`: the stages of a line have the words of its segments.
-/

namespace LineShell

/-! ## Quotes -/

namespace Quoting

open Token (isDelimiter)

/-- The state after a character, as far as quotes go. -/
def after : Quoting → Char → Quoting
  | bare, c => if c = '\'' then single else if c = '"' then double else bare
  | single, c => if c = '\'' then bare else single
  | double, c => if c = '"' then bare else double

/-- The machine over tokens leaves its state exactly at the quotes that change it. -/
theorem after_eq_action (q : Quoting) (c : Char) (follower : Option Token) :
    q.after c =
      match q.action [c] follower with
      | .switch next => next
      | _ => q := by
  cases q <;> grind [after, action]

theorem after_word (q : Quoting) {c : Char} (hc : isDelimiter c = false) : q.after c = q := by
  have hword : Token.isWord [c] = true := by simp [Token.isWord, hc]
  rw [after_eq_action q c none, action_word hword]

theorem foldl_after_run (q : Quoting) (r : Text) : (Token.run r).foldl after q = q := by
  induction r with
  | nil => rfl
  | cons c r ih =>
    cases hc : isDelimiter c with
    | true => simp [Token.run, hc]
    | false =>
      have hrun : Token.run (c :: r) = c :: Token.run r := by simp [Token.run, hc]
      rw [hrun, List.foldl_cons, after_word q hc, ih]

/-- A run without delimiters opens and closes nothing. -/
theorem foldl_after_afterRun (q : Quoting) (r : Text) : (Token.afterRun r).foldl after q = r.foldl after q := by
  have happend : Token.run r ++ Token.afterRun r = r := List.takeWhile_append_dropWhile
  rw [← congrArg (List.foldl after q) happend, List.foldl_append, foldl_after_run]

theorem words_of_closed (vars : Variables) (q : Quoting) (text : Text) :
    text.foldl after q = bare → ∃ ws, q.words vars (Token.scan text) = .ok ws := by
  induction q, text using line_induction with
  | nil q =>
    rintro rfl
    exact ⟨[], rfl⟩
  | word q c r hc ih =>
    intro hclosed
    rw [List.foldl_cons, after_word q hc, ← foldl_after_afterRun] at hclosed
    obtain ⟨ws, hws⟩ := ih hclosed
    exact ⟨_, by rw [words_scan_word hc, hws]; rfl⟩
  | switch q next c r hc ha ih =>
    intro hclosed
    rw [List.foldl_cons, after_eq_action q c _, ha] at hclosed
    obtain ⟨ws, hws⟩ := ih hclosed
    exact ⟨ws, by rw [words_scan_switch hc ha, hws]⟩
  | emit q c r hc ha ih =>
    intro hclosed
    rw [List.foldl_cons, after_eq_action q c _, ha] at hclosed
    obtain ⟨ws, hws⟩ := ih hclosed
    exact ⟨_, by rw [words_scan_emit hc ha, hws]; rfl⟩
  | expand q r hrun ha ih =>
    intro hclosed
    rw [List.foldl_cons, after_eq_action q _ _, ha, ← foldl_after_afterRun] at hclosed
    obtain ⟨ws, hws⟩ := ih hclosed
    exact ⟨_, by rw [words_scan_expand hrun ha, hws]; rfl⟩

end Quoting

/-! ## Segments -/

namespace Segment

open Quoting (after)

/-- Cut a text at every `|` outside quotes. -/
def cut : Quoting → Text → List Text
  | _, [] => [[]]
  | q, c :: r => if q = .bare ∧ c = '|' then [] :: cut .bare r else Text.consHead c (cut (q.after c) r)

def ofLine (line : Text) : List Text := cut .bare line

def Whole (q : Quoting) (text : Text) : Prop := ∀ a b, text = a ++ '|' :: b → a.foldl after q ≠ .bare

theorem cut_ne_nil (q : Quoting) (text : Text) : cut q text ≠ [] := by
  cases text with
  | nil => exact List.cons_ne_nil _ _
  | cons c r =>
    unfold cut
    split
    · exact List.cons_ne_nil _ _
    · unfold Text.consHead
      split
      · exact List.cons_ne_nil _ _
      · exact List.cons_ne_nil _ _

theorem join_cut (q : Quoting) (text : Text) : Text.join ['|'] (cut q text) = text := by
  induction text generalizing q with
  | nil => rfl
  | cons c r ih =>
    rw [cut]
    split
    · rename_i hpipe
      obtain ⟨first, more, hcut⟩ := List.exists_cons_of_ne_nil (cut_ne_nil .bare r)
      have hrest := ih .bare
      rw [hcut] at hrest ⊢
      rw [Text.join, hrest, hpipe.2]
      · rfl
      · simp
    · obtain ⟨first, more, hcut⟩ := List.exists_cons_of_ne_nil (cut_ne_nil (q.after c) r)
      have hrest := ih (q.after c)
      rw [hcut] at hrest ⊢
      rw [← hrest]
      cases more with
      | nil => rfl
      | cons _ _ => rfl

theorem Whole.tail {q : Quoting} {t r : Text} (h : Whole q (t ++ r)) : Whole (t.foldl after q) r := by
  intro a b heq
  have happend := h (t ++ a) b (by rw [heq, List.append_assoc])
  rwa [List.foldl_append] at happend

/-- A text is one segment, or a first segment with closed quotes, a `|`, and the segments of the rest. -/
theorem cut_cases (q : Quoting) (text : Text) :
    (Whole q text ∧ cut q text = [text]) ∨
      ∃ a b, text = a ++ '|' :: b ∧ Whole q a ∧ a.foldl after q = .bare ∧ cut q text = a :: cut .bare b := by
  induction text generalizing q with
  | nil => exact Or.inl ⟨fun a b heq => by simp at heq, rfl⟩
  | cons c r ih =>
    have hcons : ∀ {a : Text}, ¬(q = .bare ∧ c = '|') → Whole (q.after c) a → Whole q (c :: a) := by
      intro a hnot hwhole a' b heq
      cases a' with
      | nil =>
        intro hq
        exact hnot ⟨hq, (List.cons.inj heq).1⟩
      | cons d a' =>
        obtain ⟨rfl, hrest⟩ := List.cons.inj heq
        exact hwhole a' b hrest
    rw [cut]
    split
    · rename_i hpipe
      obtain ⟨rfl, rfl⟩ := hpipe
      exact Or.inr ⟨[], r, rfl, fun a b heq => by simp at heq, rfl, rfl⟩
    · rename_i hnot
      rcases ih (q.after c) with ⟨hwhole, hcut⟩ | ⟨a, b, rfl, hwhole, hclosed, hcut⟩
      · exact Or.inl ⟨hcons hnot hwhole, by rw [hcut]; rfl⟩
      · exact Or.inr ⟨c :: a, b, rfl, hcons hnot hwhole, hclosed, by rw [hcut]; rfl⟩

end Segment

namespace Quoting

open Segment (Whole)

variable {vars : Variables}

theorem isPipe_literal {q : Quoting} {t : Text} (h : q = .bare → t ≠ ['|']) : (q.literal t).isPipe = false := by
  cases q with
  | bare => exact beq_false_of_ne (h rfl)
  | single => rfl
  | double => rfl

theorem isPipe_value (q : Quoting) (t : Text) : (q.value t).isPipe = false := by
  cases q <;> rfl

theorem whole_afterRun {q : Quoting} {c : Char} {r : Text} (hc : q.after c = q) (h : Whole q (c :: r)) :
    Whole q (Token.afterRun r) := by
  have hsplit : c :: r = (c :: Token.run r) ++ Token.afterRun r := by
    rw [List.cons_append, Token.run, Token.afterRun, List.takeWhile_append_dropWhile]
  rw [hsplit] at h
  have htail := h.tail
  rwa [List.foldl_cons, hc, foldl_after_run] at htail

/-- Without a `|` outside quotes no word separates. -/
theorem words_of_whole (q : Quoting) (text : Text) :
    Whole q text → ∀ ws, q.words vars (Token.scan text) = .ok ws → ∀ w ∈ ws, w.isPipe = false := by
  induction q, text using line_induction with
  | nil q =>
    intro _ ws hws
    obtain ⟨-, rfl⟩ := finish_eq_ok hws
    simp
  | word q c r hc ih =>
    intro hwhole ws hws
    rw [words_scan_word hc] at hws
    obtain ⟨us, hus, rfl⟩ := exists_ok_of_map hws
    have hliteral : q = .bare → c :: Token.run r ≠ ['|'] := by
      rintro - heq
      obtain ⟨rfl, -⟩ := List.cons.inj heq
      cases hc
    exact List.forall_mem_cons.mpr ⟨isPipe_literal hliteral, ih (whole_afterRun (after_word q hc) hwhole) us hus⟩
  | switch q next c r hc ha ih =>
    intro hwhole ws hws
    rw [words_scan_switch hc ha] at hws
    have hrest := hwhole.tail (t := [c])
    rw [List.foldl_cons, List.foldl_nil, after_eq_action q c _, ha] at hrest
    exact ih hrest ws hws
  | emit q c r hc ha ih =>
    intro hwhole ws hws
    rw [words_scan_emit hc ha] at hws
    obtain ⟨us, hus, rfl⟩ := exists_ok_of_map hws
    have hliteral : q = .bare → [c] ≠ ['|'] := by
      rintro hq heq
      obtain ⟨rfl, -⟩ := List.cons.inj heq
      exact hwhole [] r rfl hq
    have hrest := hwhole.tail (t := [c])
    rw [List.foldl_cons, List.foldl_nil, after_eq_action q c _, ha] at hrest
    exact List.forall_mem_cons.mpr ⟨isPipe_literal hliteral, ih hrest us hus⟩
  | expand q r hrun ha ih =>
    intro hwhole ws hws
    rw [words_scan_expand hrun ha] at hws
    obtain ⟨us, hus, rfl⟩ := exists_ok_of_map hws
    have hstay : q.after '$' = q := by rw [after_eq_action q _ _, ha]
    exact List.forall_mem_cons.mpr ⟨isPipe_value q _, ih (whole_afterRun hstay hwhole) us hus⟩

/-- A `|` behind a text whose quotes are closed is a word of its own, and what follows it is read as ever. -/
theorem words_append_pipe {a : Text} {ws : List Word} (hws : bare.words vars (Token.scan a) = .ok ws) (b : Text) :
    bare.words vars (Token.scan (a ++ '|' :: b)) =
      (ws ++ .bare ['|'] :: ·) <$> bare.words vars (Token.scan b) := by
  rw [Token.scan_append_delimiter rfl, words_append rfl hws, words_emit rfl, Functor.map_map]
  rfl

end Quoting

namespace Stage

/-- The stages of a line have the words of its segments, each read on its own. -/
theorem ofLine_segments {vars : Variables} {line : Text} {stages : List Stage} (h : ofLine vars line = .ok stages) :
    List.Forall₂ (fun segment stage => Word.ofTokens vars (Token.scan segment) = .ok stage.words)
      (Segment.ofLine line) stages := by
  obtain ⟨ws, hws, rfl⟩ := Quoting.exists_ok_of_map h
  unfold Word.ofTokens at hws
  clear h
  -- By the first segment: what comes after its `|` is a shorter line.
  induction line using (measure List.length).wf.induction generalizing ws with
  | _ line ih =>
  rcases Segment.cut_cases .bare line with ⟨hwhole, hcut⟩ | ⟨a, b, rfl, hwhole, hclosed, hcut⟩
  · rw [Segment.ofLine, hcut, split_of_no_pipe (Quoting.words_of_whole .bare line hwhole ws hws)]
    exact .cons hws .nil
  · obtain ⟨us, hus⟩ := Quoting.words_of_closed vars .bare a hclosed
    rw [Quoting.words_append_pipe hus] at hws
    obtain ⟨vs, hvs, rfl⟩ := Quoting.exists_ok_of_map hws
    have hlt : b.length < (a ++ '|' :: b).length := by rw [List.length_append, List.length_cons]; omega
    rw [Segment.ofLine, hcut, split_append_pipe (Quoting.words_of_whole .bare a hwhole us hus) rfl]
    exact .cons hus (ih b hlt vs hvs)

end Stage

end LineShell
