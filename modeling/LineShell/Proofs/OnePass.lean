import LineShell.Proofs.Passes

/-!
Quoting, character by character. The scanner below goes once over the characters of a line and knows
no tokens: its state is the open quote. The two passes of the shell, tokens and then words, give the
same characters from the same places, and fail where the scanner ends inside a quotation.

  - `read_eq_action`: on one character, the scanner does what the machine over tokens does.
  - `read_append`: it passes over a token without delimiters as a whole.
  - `words_scan`: from any state on, words and scanner agree.
  - `ofTokens_scan`: so they do on a line.
-/

namespace LineShell

inductive Origin where
  | bare | quoted | expansion
  deriving DecidableEq, Repr

def Word.marked : Word → List (Char × Origin)
  | .bare t => t.map (·, .bare)
  | .quoted t => t.map (·, .quoted)
  | .expansion t => t.map (·, .expansion)

namespace OnePass

/-- Characters with origins, and the quote that is open at the end. -/
abbrev Reading := List (Char × Origin) × Option Char

def kept : Option Char → Origin
  | none => .bare
  | some _ => .quoted

def fetched : Option Char → Origin
  | none => .expansion
  | some _ => .quoted

def put (t : Text) (origin : Origin) (reading : Reading) : Reading := (t.map (·, origin) ++ reading.1, reading.2)

/-- Read the characters of a line, with `quote` open. A quote that opens or closes a quotation is dropped.
`$` with characters other than delimiters directly after it is a reference, unless it is in single
quotes: the value bound to them, if there is one, stands for both and is not read again. All else is kept. -/
def read (vars : Variables) : Option Char → Text → Reading
  | quote, [] => ([], quote)
  | quote, c :: r =>
    if quote = none ∧ (c = '\'' ∨ c = '"') then read vars (some c) r
    else if quote = some c then read vars none r
    else if c = '$' ∧ quote ≠ some '\'' ∧ Token.run r ≠ [] then
      put ((vars.get? (Token.run r)).getD []) (fetched quote) (read vars quote (Token.afterRun r))
    else put [c] (kept quote) (read vars quote r)
  termination_by _ text => text.length
  decreasing_by
    all_goals simp only [List.length_cons]
    any_goals omega
    exact Nat.lt_succ_of_le (Token.length_afterRun_le r)

def result : Reading → Except LineError (List (Char × Origin))
  | (out, none) => .ok out
  | (_, some quote) => .error (.unterminatedQuote quote)

theorem result_put (t : Text) (origin : Origin) (reading : Reading) :
    result (put t origin reading) = (t.map (·, origin) ++ ·) <$> result reading := by
  obtain ⟨out, quote⟩ := reading
  cases quote <;> rfl

/-! ## One character -/

variable (vars : Variables)

/-- On one character, the scanner does what the machine does with the token of that character. -/
theorem read_eq_action (q : Quoting) (c : Char) (r : Text) :
    read vars q.closing? (c :: r) =
      match q.action [c] (Token.scan r).head? with
      | .switch next => read vars next.closing? r
      | .expand =>
        put ((vars.get? (Token.run r)).getD []) (fetched q.closing?) (read vars q.closing? (Token.afterRun r))
      | .emit => put [c] (kept q.closing?) (read vars q.closing? r) := by
  have href : (c = '$' ∧ q.closing? ≠ some '\'' ∧ Token.run r ≠ []) ↔
      q.closing? ≠ some '\'' ∧ Quoting.isReference [c] (Token.scan r).head? = true := by
    rw [Quoting.isReference_iff]
    exact and_left_comm
  rw [read]
  simp only [href]
  cases q with
  | bare =>
    by_cases h1 : c = '\''
    · simp [h1, Quoting.action, Quoting.closing?]
    by_cases h2 : c = '"'
    · simp [h2, Quoting.action, Quoting.closing?]
    by_cases h3 : Quoting.isReference [c] (Token.scan r).head? <;> simp [h1, h2, h3, Quoting.action, Quoting.closing?]
  | single =>
    by_cases h1 : c = '\''
    · simp [h1, Quoting.action, Quoting.closing?]
    · simp [h1, Ne.symm h1, Quoting.action, Quoting.closing?]
  | double =>
    by_cases h2 : c = '"'
    · simp [h2, Quoting.action, Quoting.closing?]
    by_cases h3 : Quoting.isReference [c] (Token.scan r).head? <;>
      simp [h2, Ne.symm h2, h3, Quoting.action, Quoting.closing?]

theorem read_append (q : Quoting) {t : Text} (h : ∀ c ∈ t, Token.isDelimiter c = false) (r : Text) :
    read vars q.closing? (t ++ r) = put t (kept q.closing?) (read vars q.closing? r) := by
  induction t with
  | nil => rfl
  | cons c t ih =>
    have hword : Token.isWord [c] = true := by simp [Token.isWord, h c (List.mem_cons_self ..)]
    rw [List.cons_append, read_eq_action, Quoting.action_word hword, ih fun d hd => h d (List.mem_cons_of_mem _ hd)]
    rfl

theorem read_word (q : Quoting) {c : Char} (hc : Token.isDelimiter c = false) (r : Text) :
    read vars q.closing? (c :: r) =
      put (c :: Token.run r) (kept q.closing?) (read vars q.closing? (Token.afterRun r)) := by
  have hrun : ∀ d ∈ c :: Token.run r, Token.isDelimiter d = false := by
    intro d hd
    rcases List.mem_cons.mp hd with rfl | hd
    · exact hc
    · simpa using List.all_eq_true.mp List.all_takeWhile d hd
  rw [← read_append vars q hrun, List.cons_append, Token.run, Token.afterRun, List.takeWhile_append_dropWhile]

/-! ## Words -/

theorem marked_literal (q : Quoting) (t : Text) : (q.literal t).marked = t.map (·, kept q.closing?) := by
  cases q <;> rfl

theorem marked_value (q : Quoting) (t : Text) : (q.value t).marked = t.map (·, fetched q.closing?) := by
  cases q <;> rfl

theorem marked_cons (w : Word) (words : Except LineError (List Word)) :
    (·.flatMap Word.marked) <$> ((w :: ·) <$> words) = (w.marked ++ ·) <$> ((·.flatMap Word.marked) <$> words) := by
  cases words <;> rfl

/-- From any state on, the words of the tokens are what the scanner reads. -/
theorem words_scan (q : Quoting) (line : Text) :
    (·.flatMap Word.marked) <$> q.words vars (Token.scan line) = result (read vars q.closing? line) := by
  induction q, line using Quoting.line_induction with
  | nil q =>
    rw [read]
    cases q <;> rfl
  | word q c r hc ih =>
    rw [Quoting.words_scan_word hc, marked_cons, marked_literal, ih, read_word vars q hc, result_put]
  | switch q next c r hc ha ih =>
    rw [Quoting.words_scan_switch hc ha, read_eq_action, ha]
    exact ih
  | emit q c r hc ha ih =>
    rw [Quoting.words_scan_emit hc ha, marked_cons, marked_literal, ih, read_eq_action, ha, result_put]
  | expand q r hrun ha ih =>
    rw [Quoting.words_scan_expand hrun ha, marked_cons, marked_value, ih, read_eq_action, Token.scan_run hrun,
      List.head?_cons, ha, result_put]
    rfl

/-- **One pass.** The words of a line are, character by character and with their origins, what the scanner
reads; and where it ends inside a quotation, there are none. -/
theorem ofTokens_scan (line : Text) :
    (·.flatMap Word.marked) <$> Word.ofTokens vars (Token.scan line) = result (read vars none line) :=
  words_scan vars .bare line

/-- References in all three states, one to a name that is unbound and one with a quote in its value, `$` before
a blank and before a quote, each quote inside the other, and a line that ends inside a quotation. -/
theorem ofTokens_scan_mixed :
    let vars : Variables := ⟨[("x".toList, "b 'c".toList)]⟩
    let read (line : String) := (·.flatMap Word.marked) <$> Word.ofTokens vars (Token.scan line.toList)
    read "é'$x \"'\"$x$y'$\"$x=$ |$y$x" = .ok ("é".toList.map (·, .bare) ++ "$x \"b 'c'$".toList.map (·, .quoted) ++
      "b 'c".toList.map (·, .expansion) ++ "=$ |".toList.map (·, .bare) ++ "b 'c".toList.map (·, .expansion)) ∧
      read "a'b\"" = .error (.unterminatedQuote '\'') := by
  intro vars read
  exact ⟨(ofTokens_scan vars _).trans (by decide +kernel), (ofTokens_scan vars _).trans (by decide +kernel)⟩

end OnePass

end LineShell
