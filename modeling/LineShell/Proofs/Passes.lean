import LineShell.Command
import Mathlib.Data.List.DropRight

/-!
Laws of the passes over a line: cutting it into tokens, making words of them, cutting those into
stages, and grouping the words of a stage.

  - `scan_word` / `scan_append_delimiter`: a token that is no delimiter is a maximal run, and a
    delimiter separates whatever is around it.
  - `scan_flatten`: the tokens of a line put together are the line.
  - `line_cases` / `line_induction`: how a line begins, and what becomes of it, by the token that comes first and what
    is done with it.
  - `words_error`: why tokens are rejected.
  - `words_append`: words that are complete do not depend on what comes after a delimiter.
  - `split_append` / `split_append_pipe`: what stands on either side of an unquoted `|` is cut on its own.
  - `trim_padded` / `trim_blank` / `trim_append_blanks` / `trim_cons`: trimming takes away the blanks around words, and nothing else.
  - `ofWords_assign_iff`: which words assign.
-/

namespace LineShell

/-! ## Tokens -/

namespace Token

/-- The maximal run without delimiters that a text starts with. -/
def run (text : Text) : Text := text.takeWhile fun c => !isDelimiter c

def afterRun (text : Text) : Text := text.dropWhile fun c => !isDelimiter c

theorem length_afterRun_le (text : Text) : (afterRun text).length ≤ text.length :=
  (List.dropWhile_sublist _).length_le

variable {c : Char}

theorem scan_delimiter (hc : isDelimiter c = true) (r : Text) : scan (c :: r) = [c] :: scan r := by
  rw [scan.eq_def]
  simp [hc]

theorem scan_word (hc : isDelimiter c = false) (r : Text) :
    scan (c :: r) = (c :: run r) :: scan (afterRun r) := by
  induction r generalizing c with
  | nil => simp [scan, hc, run, afterRun]
  | cons d r ih =>
    cases hd : isDelimiter d with
    | true => simp [scan, hc, hd, run, afterRun]
    | false =>
      have hrest := ih hd
      rw [scan.eq_def]
      simp only [hc, hd, Bool.false_eq_true, if_false, hrest]
      simp [Text.consHead, run, afterRun, hd]

theorem isWord_head?_scan (r : Text) : (scan r).head?.any isWord = true ↔ run r ≠ [] := by
  match r with
  | [] => exact iff_of_false (by simp [scan]) (by simp [run])
  | c :: r =>
    cases hc : isDelimiter c with
    | true => simp [scan_delimiter hc, isWord, run, hc]
    | false => simp [scan_word hc, isWord, run, hc]

theorem scan_run {r : Text} (h : run r ≠ []) : scan r = run r :: scan (afterRun r) := by
  match r with
  | [] => exact absurd rfl h
  | c :: r =>
    cases hc : isDelimiter c with
    | true => exact absurd (by simp [run, hc]) h
    | false => simp [scan_word hc, run, afterRun, hc]

theorem run_of_free {word : Text} (h : ∀ c ∈ word, isDelimiter c = false) : run word = word ∧ afterRun word = [] := by
  have hall : ∀ c ∈ word, (!isDelimiter c) = true := fun c hc => by rw [h c hc, Bool.not_false]
  exact ⟨List.takeWhile_eq_self_iff.mpr hall, List.dropWhile_eq_nil_iff.mpr hall⟩

theorem scan_of_free {word : Text} (hne : word ≠ []) (h : ∀ c ∈ word, isDelimiter c = false) : scan word = [word] := by
  obtain ⟨hrun, hafter⟩ := run_of_free h
  rw [scan_run (by rwa [hrun]), hrun, hafter]
  rfl

theorem scan_induction {P : Text → Prop} (nil : P [])
    (delimiter : ∀ c r, isDelimiter c = true → P r → P (c :: r))
    (word : ∀ c r, isDelimiter c = false → P (afterRun r) → P (c :: r)) (text : Text) : P text := by
  induction text using (measure List.length).wf.induction with
  | _ text ih =>
  match text with
  | [] => exact nil
  | c :: r =>
    cases hc : isDelimiter c with
    | true => exact delimiter c r hc (ih r (Nat.lt_succ_self _))
    | false => exact word c r hc (ih _ (Nat.lt_succ_of_le (length_afterRun_le r)))

theorem scan_flatten (text : Text) : (scan text).flatten = text := by
  induction text using scan_induction with
  | nil => rfl
  | delimiter c r hc ih => rw [scan_delimiter hc, List.flatten_cons, ih]; rfl
  | word c r hc ih =>
    rw [scan_word hc, List.flatten_cons, ih, run, afterRun, List.cons_append, List.takeWhile_append_dropWhile]

/-- A run ends at a delimiter at the latest. -/
theorem run_append_delimiter (hc : isDelimiter c = true) (a r : Text) :
    run (a ++ c :: r) = run a ∧ afterRun (a ++ c :: r) = afterRun a ++ c :: r := by
  induction a with
  | nil => simp [run, afterRun, hc]
  | cons d a ih =>
    cases hd : isDelimiter d with
    | true => simp [run, afterRun, hd]
    | false => simpa [run, afterRun, hd] using ih

/-- A delimiter separates whatever is around it. -/
theorem scan_append_delimiter (hc : isDelimiter c = true) (a r : Text) :
    scan (a ++ c :: r) = scan a ++ [c] :: scan r := by
  induction a using scan_induction with
  | nil => exact scan_delimiter hc r
  | delimiter d a hd ih => rw [List.cons_append, scan_delimiter hd, ih, scan_delimiter hd]; rfl
  | word d a hd ih =>
    obtain ⟨hrun, hafter⟩ := run_append_delimiter hc a r
    rw [List.cons_append, scan_word hd, hrun, hafter, ih, scan_word hd]
    rfl

theorem mem_of_mem_scan {token : Token} {text : Text} (ht : token ∈ scan text) (hc : c ∈ token) : c ∈ text := by
  rw [← scan_flatten text]
  exact List.mem_flatten.mpr ⟨token, ht, hc⟩

end Token

/-! ## Words -/

namespace Quoting

open Token (isWord isDelimiter)

variable {vars : Variables} {q next : Quoting} {token name : Token} {rest : List Token}

theorem exists_ok_of_map {α β : Type} {f : α → β} {x : Except LineError α} {b : β} (h : f <$> x = .ok b) :
    ∃ a, x = .ok a ∧ f a = b := by
  cases x with
  | error e => cases h
  | ok a => exact ⟨a, rfl, Except.ok.inj h⟩

theorem error_of_map {α β : Type} {f : α → β} {x : Except LineError α} {e : LineError} (h : f <$> x = .error e) :
    x = .error e := by
  cases x with
  | error cause => exact congrArg Except.error (Except.error.inj h)
  | ok a => cases h

theorem finish_eq_ok {ws : List Word} (h : q.finish = .ok ws) : q = bare ∧ ws = [] := by
  cases q with
  | bare => exact ⟨rfl, (Except.ok.inj h).symm⟩
  | single => cases h
  | double => cases h

theorem words_switch (h : q.action token rest.head? = .switch next) :
    q.words vars (token :: rest) = next.words vars rest := by
  rw [words.eq_def]
  simp only [h]

theorem words_emit (h : q.action token rest.head? = .emit) :
    q.words vars (token :: rest) = (q.literal token :: ·) <$> q.words vars rest := by
  rw [words.eq_def]
  simp only [h]

theorem words_expand (h : q.action token (some name) = .expand) :
    q.words vars (token :: name :: rest) = (q.value (vars.expand name) :: ·) <$> q.words vars rest := by
  rw [words.eq_def]
  simp only [List.head?_cons, h]

/-- Tokens are rejected only for a quotation that stays open. -/
theorem words_error {tokens : List Token} {e : LineError} (h : q.words vars tokens = .error e) :
    ∃ quote, e = .unterminatedQuote quote := by
  have hfinish : ∀ q : Quoting, q.finish = .error e → ∃ quote, e = .unterminatedQuote quote := by
    intro q hq
    cases q with
    | bare => cases hq
    | single => cases hq; exact ⟨_, rfl⟩
    | double => cases hq; exact ⟨_, rfl⟩
  fun_induction words vars q tokens with
  | case1 q => exact hfinish q h
  | case2 q token tokens next ha ih => exact ih h
  | case3 q token tokens ha ih => exact ih (error_of_map h)
  | case4 q token follower tokens ha ih => exact ih (error_of_map h)
  | case5 q token ha => exact hfinish q h

/-- In a line, `$` is a reference if a run follows it. -/
theorem isReference_iff {c : Char} {r : Text} :
    isReference [c] (Token.scan r).head? = true ↔ c = '$' ∧ Token.run r ≠ [] := by
  rw [isReference, Bool.and_eq_true, beq_iff_eq, List.cons.injEq, and_iff_left rfl, Token.isWord_head?_scan]

theorem isReference_of_expand {follower : Option Token} (h : q.action token follower = .expand) :
    isReference token follower = true := by
  cases q <;> grind [action]

/-- A token that neither quotes nor starts a reference is kept in every state. -/
theorem action_kept (hs : token ≠ ['\'']) (hd : token ≠ ['"']) (hr : token ≠ ['$']) (follower : Option Token) :
    q.action token follower = .emit := by
  have href : isReference token follower = false := by rw [isReference, beq_false_of_ne hr, Bool.false_and]
  cases q <;> simp [action, hs, hd, href]

theorem action_word (h : isWord token = true) (follower : Option Token) : q.action token follower = .emit := by
  have hne : ∀ c, isDelimiter c = true → token ≠ [c] := by
    rintro c hc rfl
    simp [isWord, hc] at h
  exact action_kept (hne '\'' rfl) (hne '"' rfl) (hne '$' rfl) follower

/-- How a text begins, by the token that comes first and what is done with it. -/
theorem line_cases (q : Quoting) {P : Text → Prop} (nil : P [])
    (word : ∀ c r, isDelimiter c = false → P (c :: r))
    (switch : ∀ next c r, isDelimiter c = true → q.action [c] (Token.scan r).head? = .switch next → P (c :: r))
    (emit : ∀ c r, isDelimiter c = true → q.action [c] (Token.scan r).head? = .emit → P (c :: r))
    (expand : ∀ r, Token.run r ≠ [] → q.action ['$'] (some (Token.run r)) = .expand → P ('$' :: r))
    (text : Text) : P text := by
  match text with
  | [] => exact nil
  | c :: r =>
    cases hc : isDelimiter c with
    | false => exact word c r hc
    | true =>
      cases ha : q.action [c] (Token.scan r).head? with
      | switch next => exact switch next c r hc ha
      | emit => exact emit c r hc ha
      | expand =>
        obtain ⟨rfl, hrun⟩ := isReference_iff.mp (isReference_of_expand ha)
        rw [Token.scan_run hrun] at ha
        exact expand r hrun ha

/-- What becomes of a text, in the same cases. -/
theorem line_induction {P : Quoting → Text → Prop} (nil : ∀ q, P q [])
    (word : ∀ q c r, isDelimiter c = false → P q (Token.afterRun r) → P q (c :: r))
    (switch : ∀ q next c r, isDelimiter c = true → q.action [c] (Token.scan r).head? = .switch next →
      P next r → P q (c :: r))
    (emit : ∀ q c r, isDelimiter c = true → q.action [c] (Token.scan r).head? = .emit → P q r → P q (c :: r))
    (expand : ∀ q r, Token.run r ≠ [] → q.action ['$'] (some (Token.run r)) = .expand →
      P q (Token.afterRun r) → P q ('$' :: r)) (q : Quoting) (text : Text) : P q text := by
  induction text using (measure List.length).wf.induction generalizing q with
  | _ text ih =>
  have hafter : ∀ c r, (Token.afterRun r).length < (c :: r).length := fun _ r =>
    Nat.lt_succ_of_le (Token.length_afterRun_le r)
  cases text using line_cases q with
  | nil => exact nil q
  | word c r hc => exact word q c r hc (ih _ (hafter c r) q)
  | switch next c r hc ha => exact switch q next c r hc ha (ih r (Nat.lt_succ_self _) next)
  | emit c r hc ha => exact emit q c r hc ha (ih r (Nat.lt_succ_self _) q)
  | expand r hrun ha => exact expand q r hrun ha (ih _ (hafter '$' r) q)

/-! The words of a line in the same cases. -/

section

variable {c : Char} {r : Text}

theorem words_scan_word (hc : isDelimiter c = false) :
    q.words vars (Token.scan (c :: r)) =
      (q.literal (c :: Token.run r) :: ·) <$> q.words vars (Token.scan (Token.afterRun r)) := by
  have hword : isWord (c :: Token.run r) = true := by simp [isWord, hc]
  rw [Token.scan_word hc, words_emit (action_word hword _)]

theorem words_scan_switch (hc : isDelimiter c = true) (ha : q.action [c] (Token.scan r).head? = .switch next) :
    q.words vars (Token.scan (c :: r)) = next.words vars (Token.scan r) := by
  rw [Token.scan_delimiter hc, words_switch ha]

theorem words_scan_emit (hc : isDelimiter c = true) (ha : q.action [c] (Token.scan r).head? = .emit) :
    q.words vars (Token.scan (c :: r)) = (q.literal [c] :: ·) <$> q.words vars (Token.scan r) := by
  rw [Token.scan_delimiter hc, words_emit ha]

/-- The name is the next token, so both passes go on behind it. -/
theorem words_scan_expand (hrun : Token.run r ≠ []) (ha : q.action ['$'] (some (Token.run r)) = .expand) :
    q.words vars (Token.scan ('$' :: r)) =
      (q.value (vars.expand (Token.run r)) :: ·) <$> q.words vars (Token.scan (Token.afterRun r)) := by
  rw [Token.scan_delimiter rfl, Token.scan_run hrun, words_expand ha]

theorem words_scan_blank (hblank : Text.isBlank c = true) :
    q.words vars (Token.scan (c :: r)) = (q.literal [c] :: ·) <$> q.words vars (Token.scan r) := by
  have hdelimiter : isDelimiter c = true := by rw [isDelimiter, hblank, Bool.or_true]
  have hne : ∀ d, Text.isBlank d = false → [c] ≠ [d] := by
    rintro d hd heq
    rw [← (List.cons.inj heq).1, hblank] at hd
    cases hd
  exact words_scan_emit hdelimiter (action_kept (hne '\'' rfl) (hne '"' rfl) (hne '$' rfl) _)

end

/-- A token that no reference can name is to the machine like the end of the line. -/
theorem action_append (h : isWord name = false) (tokens rest : List Token) :
    q.action token (tokens ++ name :: rest).head? = q.action token tokens.head? := by
  cases tokens with
  | nil => cases q <;> simp [action, isReference, h]
  | cons _ _ => rfl

/-- Words that are complete stay as they are when such a token comes after them. -/
theorem words_append (h : isWord name = false) {tokens : List Token} {ws : List Word}
    (hws : q.words vars tokens = .ok ws) (rest : List Token) :
    q.words vars (tokens ++ name :: rest) = (ws ++ ·) <$> bare.words vars (name :: rest) := by
  fun_induction words vars q tokens generalizing ws with
  | case1 q =>
    obtain ⟨rfl, rfl⟩ := finish_eq_ok hws
    exact (id_map _).symm
  | case2 q token tokens next ha ih =>
    rw [List.cons_append, words_switch (by rw [action_append h, ha])]
    exact ih hws
  | case3 q token tokens ha ih =>
    obtain ⟨us, hus, rfl⟩ := exists_ok_of_map hws
    rw [List.cons_append, words_emit (by rw [action_append h, ha]), ih hus, Functor.map_map]
    rfl
  | case4 q token follower tokens ha ih =>
    obtain ⟨us, hus, rfl⟩ := exists_ok_of_map hws
    rw [List.cons_append, List.cons_append, words_expand ha, ih hus, Functor.map_map]
    rfl
  | case5 q token ha =>
    exact absurd (isReference_of_expand ha) (by simp [isReference])

/-- Tokens that are kept, whatever follows them, are a word each. -/
theorem words_emit_all {tokens : List Token} (h : ∀ t ∈ tokens, ∀ follower, q.action t follower = .emit)
    (rest : List Token) :
    q.words vars (tokens ++ rest) = (tokens.map q.literal ++ ·) <$> q.words vars rest := by
  induction tokens with
  | nil => exact (id_map _).symm
  | cons t tokens ih =>
    rw [List.cons_append, words_emit (h t (List.mem_cons_self ..) _),
      ih fun t ht => h t (List.mem_cons_of_mem _ ht), Functor.map_map]
    rfl

end Quoting

/-! ## Stages -/

theorem Word.isPipe_of_isBlank {w : Word} (h : w.isBlank = true) : w.isPipe = false := by
  cases w with
  | bare t =>
    refine beq_false_of_ne ?_
    rintro rfl
    cases h
  | quoted t => rfl
  | expansion t => rfl

namespace Stage

theorem split_pipe {word : Word} (hw : word.isPipe = true) (rest : List Word) :
    split (word :: rest) = ⟨[]⟩ :: split rest := by
  rw [split, if_pos hw]

theorem split_other {word : Word} (hw : word.isPipe = false) (rest : List Word) :
    split (word :: rest) = consFirst word (split rest) := by
  rw [split, if_neg (by simp [hw])]

theorem split_of_no_pipe {words : List Word} (h : ∀ w ∈ words, w.isPipe = false) : split words = [⟨words⟩] := by
  induction words with
  | nil => rfl
  | cons w rest ih =>
    rw [split_other (h w (List.mem_cons_self ..)), ih fun x hx => h x (List.mem_cons_of_mem _ hx)]
    rfl

theorem split_ne_nil (words : List Word) : split words ≠ [] := by
  cases words with
  | nil => exact List.cons_ne_nil _ _
  | cons w rest =>
    cases hw : w.isPipe with
    | true =>
      rw [split_pipe hw]
      exact List.cons_ne_nil _ _
    | false =>
      rw [split_other hw]
      unfold consFirst
      split
      · exact List.cons_ne_nil _ _
      · exact List.cons_ne_nil _ _

theorem consFirst_append {stages : List Stage} (h : stages ≠ []) (word : Word) (rest : List Stage) :
    consFirst word (stages ++ rest) = consFirst word stages ++ rest := by
  obtain ⟨first, more, rfl⟩ := List.exists_cons_of_ne_nil h
  rfl

/-- What stands on either side of an unquoted `|` is cut on its own. -/
theorem split_append {pipe : Word} (hp : pipe.isPipe = true) (words rest : List Word) :
    split (words ++ pipe :: rest) = split words ++ split rest := by
  induction words with
  | nil => exact split_pipe hp rest
  | cons w words ih =>
    cases hw : w.isPipe with
    | true => rw [List.cons_append, split_pipe hw, split_pipe hw, ih, List.cons_append]
    | false =>
      rw [List.cons_append, split_other hw, split_other hw, ih]
      exact consFirst_append (split_ne_nil words) w (split rest)

theorem split_append_pipe {words : List Word} (h : ∀ w ∈ words, w.isPipe = false) {pipe : Word}
    (hp : pipe.isPipe = true) (rest : List Word) : split (words ++ pipe :: rest) = ⟨words⟩ :: split rest := by
  rw [split_append hp, split_of_no_pipe h]
  rfl

theorem ofLine_error {vars : Variables} {line : Text} {e : LineError} (h : ofLine vars line = .error e) :
    ∃ quote, e = .unterminatedQuote quote :=
  Quoting.words_error (Quoting.error_of_map h)

theorem ofLine_ne_nil {vars : Variables} {line : Text} {stages : List Stage} (h : ofLine vars line = .ok stages) :
    stages ≠ [] := by
  obtain ⟨words, -, rfl⟩ := Quoting.exists_ok_of_map h
  exact split_ne_nil words

end Stage

/-! ## Blanks around words -/

namespace Command

theorem dropWhile_blank_append {blanks : List Word} (h : ∀ w ∈ blanks, w.isBlank = true) {words : List Word}
    (hw : ∀ w ∈ words.head?, w.isBlank = false) : (blanks ++ words).dropWhile Word.isBlank = words := by
  rw [List.dropWhile_append_of_pos h]
  cases words with
  | nil => rfl
  | cons w rest =>
    have := hw w rfl
    exact List.dropWhile_cons_of_neg (by simp [this])

/-- Trimming takes away the blanks around words, and nothing else. -/
theorem trim_padded {left words right : List Word} (hl : ∀ w ∈ left, w.isBlank = true)
    (hr : ∀ w ∈ right, w.isBlank = true) (hne : words ≠ []) (hfirst : ∀ w ∈ words.head?, w.isBlank = false)
    (hlast : ∀ w ∈ words.getLast?, w.isBlank = false) : trim (left ++ (words ++ right)) = words := by
  have hhead : ∀ w ∈ (words ++ right).head?, w.isBlank = false := by
    obtain ⟨w, rest, rfl⟩ := List.exists_cons_of_ne_nil hne
    exact hfirst
  rw [trim, dropWhile_blank_append hl hhead, List.reverse_append, dropWhile_blank_append, List.reverse_reverse]
  · exact fun w hw => hr w (List.mem_reverse.mp hw)
  · rw [List.head?_reverse]
    exact hlast

/-! Trimming from the left, word by word. -/

theorem rdropWhile_cons {w : Word} (hw : w.isBlank = false) (words : List Word) :
    (w :: words).rdropWhile Word.isBlank = w :: words.rdropWhile Word.isBlank := by
  induction words using List.reverseRecOn with
  | nil => rw [List.rdropWhile_singleton, if_neg (by simp [hw]), List.rdropWhile_nil]
  | append_singleton words last ih =>
    rw [← List.cons_append]
    cases hlast : last.isBlank with
    | true => rw [List.rdropWhile_concat_pos _ _ _ hlast, List.rdropWhile_concat_pos _ _ _ hlast, ih]
    | false =>
      have hkeep : ¬last.isBlank = true := by simp [hlast]
      rw [List.rdropWhile_concat_neg _ _ _ hkeep, List.rdropWhile_concat_neg _ _ _ hkeep, List.cons_append]

theorem trim_blank {w : Word} (hw : w.isBlank = true) (words : List Word) : trim (w :: words) = trim words := by
  rw [trim, List.dropWhile_cons_of_pos hw, trim]

theorem trim_cons {w : Word} (hw : w.isBlank = false) (words : List Word) :
    trim (w :: words) = w :: words.rdropWhile Word.isBlank := by
  rw [trim, List.dropWhile_cons_of_neg (by simp [hw])]
  exact rdropWhile_cons hw words

/-- Blanks at the end of words are no part of what trimming leaves. -/
theorem trim_append_blanks {right : List Word} (hr : ∀ w ∈ right, w.isBlank = true) (words : List Word) :
    trim (words ++ right) = trim words := by
  have hend : ∀ ws : List Word, (ws ++ right).rdropWhile Word.isBlank = ws.rdropWhile Word.isBlank := by
    intro ws
    have hreverse : ∀ w ∈ right.reverse, w.isBlank = true := fun w hw => hr w (List.mem_reverse.mp hw)
    rw [List.rdropWhile, List.reverse_append, List.dropWhile_append_of_pos hreverse, List.rdropWhile]
  induction words with
  | nil =>
    rw [trim, List.nil_append, List.dropWhile_eq_nil_iff.mpr hr]
    rfl
  | cons w words ih =>
    cases hw : w.isBlank with
    | true => rw [List.cons_append, trim_blank hw, trim_blank hw, ih]
    | false => rw [List.cons_append, trim_cons hw, trim_cons hw, hend]

/-- Words assign if they are, once trimmed, an unquoted name, an unquoted `=` and a value. -/
theorem ofWords_assign_iff {words : List Word} {name value : Text} :
    ofWords words = .assign name value ↔
      ∃ eq more, trim words = .bare name :: eq :: more ∧ isName name = true ∧ eq.isEqual = true ∧
        value = more.flatMap Word.text := by
  constructor
  · intro h
    unfold ofWords at h
    split at h
    · rename_i bound eq more htrim
      split at h
      · rename_i hboth
        rw [Bool.and_eq_true] at hboth
        cases h
        exact ⟨eq, more, htrim, hboth.1, hboth.2, rfl⟩
      · cases h
    · cases h
  · rintro ⟨eq, more, htrim, hname, heq, rfl⟩
    simp only [ofWords, htrim]
    rw [if_pos (by rw [hname, heq]; rfl)]

end Command

end LineShell
