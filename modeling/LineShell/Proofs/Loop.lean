import LineShell.Host
import LineShell.Proofs.Bindings
import LineShell.Proofs.Passes
import LineShell.ReadLoop
import Mathlib.Data.List.Induction

/-!
The read loop as a fold of the lines that it is given. Which lines those are depends on the run if the
session shares the input of the process, since a command can then read on where the loop has stopped; so
the reader is asked at every place of the fold. The loop itself counts down from the bytes of its source.
No line leaves more of them than there were, and reading one takes a byte at least.

  - `chain_source` / `chain_failed`: what becomes of the source, and of the sink if a chain fails.
  - `line_blank` / `line_failed`: a blank line changes nothing, and one that fails little.
  - `console_line` / `source_line` / `pending_nextLine`: what becomes of the console.
  - `covers_run`: the lines that are executed.
  - `agrees_run`: executing the blank lines as well makes no difference.
  - `readLines_step` / `readLines_run`: one line of the loop, and all of it.
  - `reads_of_status`: the loop is given some lines and then the end, unless the reader fails.
  - `readLoop_eq_fold`: all that about the loop.
-/

namespace LineShell

/-! ## What is left to read -/

namespace Source

def pending (source : Source) : Nat := source.ahead.length + source.rest.length

theorem PartOf.pending_le {left source : Source} (h : left.PartOf source) : left.pending ≤ source.pending := by
  obtain ⟨ahead, rest, rfl⟩ := h
  simp only [pending, List.length_drop]
  omega

theorem PartOf.shared {left source : Source} (h : left.PartOf source) : left.shared = source.shared := by
  obtain ⟨ahead, rest, rfl⟩ := h
  rfl

theorem shared_readLine (source : Source) : source.readLine.2.shared = source.shared := by
  have hkept : source.takeLine.2.shared = source.shared := rfl
  rcases htake : source.takeLine with ⟨line, left⟩
  rw [htake] at hkept
  simp only [readLine, htake]
  split
  · exact hkept
  · exact hkept
  · exact hkept
  · exact hkept

/-- A line that is read takes a byte at least. -/
theorem pending_readLine {source left : Source} {text : Text} (h : source.readLine = (.ok (some text), left)) :
    left.pending < source.pending := by
  have hdata := congrArg List.length source.takeLine_append
  rcases htake : source.takeLine with ⟨line, after⟩
  simp only [htake, List.length_append] at hdata
  rw [readLine, htake] at h
  have hline : line ≠ [] ∧ after = left := by
    simp only at h
    split at h
    · cases h
    · cases h
    · rename_i hne _ _
      cases h
      exact ⟨hne, rfl⟩
    · cases h
  obtain ⟨hne, rfl⟩ := hline
  have hpos := List.length_pos_iff.mpr hne
  rw [pending, pending]
  omega

end Source

namespace Session

variable {s : Session} (m : Machine)

theorem effect_source (directory : Text) (p : Position) (vars : Variables) (source : Source) (stage : Stage) :
    ∃ left, (stage.effect m directory p vars (.source source)).rest = .source left ∧ left.PartOf source := by
  unfold Stage.effect
  split
  · exact ⟨source, rfl, source.partOf_refl⟩
  · match Command.ofStage stage with
    | .assign name value => exact ⟨source, rfl, source.partOf_refl⟩
    | .call [] => exact ⟨source, rfl, source.partOf_refl⟩
    | .call (name :: arguments) =>
      obtain ⟨left, hleft, hpart⟩ := reply_source m directory name arguments source
      simp only [Command.effect]
      rcases hr : Command.reply m directory name arguments (.source source) with ⟨e | reply, rest⟩
      · exact ⟨left, by rw [← hleft, hr]; rfl, hpart⟩
      · exact ⟨left, by rw [← hleft, hr]; rfl, hpart⟩

theorem chain_source (s : Session) (stages : List Stage) :
    (s.chain m stages).2.streams.source.PartOf s.streams.source := by
  match stages with
  | [] =>
    rw [chain_nil]
    split
    · exact s.streams.source.partOf_refl
    · exact s.streams.source.partOf_refl
  | [stage] =>
    obtain ⟨left, hleft, hpart⟩ := effect_source m s.directory ⟨0, 1⟩ s.vars s.streams.source stage
    rw [chain_eq_finish s m (List.cons_ne_nil _ _), finish_source]
    show (Flow.sourceAfter s.streams.source (stage.effect m s.directory ⟨0, 1⟩ s.vars (.source s.streams.source)).rest).PartOf _
    rw [hleft]
    exact hpart
  | first :: second :: rest =>
    obtain ⟨-, hsource⟩ := chain_eq_fold s m (first :: second :: rest) (List.cons_ne_nil _ _)
    rw [hsource (by simp)]
    exact s.streams.source.partOf_refl

theorem line_source (s : Session) (text : Text) : (s.line m text).2.streams.source.PartOf s.streams.source := by
  cases hline : Stage.ofLine s.vars text with
  | error e =>
    rw [line_rejected m hline]
    exact s.streams.source.partOf_refl
  | ok stages =>
    rw [line_accepted m hline]
    exact chain_source m s stages

/-- A chain that fails prints nothing, or what a full sink takes before it fails. -/
theorem chain_failed {stages : List Stage} {e : LineError} (h : (s.chain m stages).1 = .error e) :
    (s.chain m stages).2.streams.sink = s.streams.sink ∨
      ∃ data cause, s.streams.sink.write data = (.error cause, (s.chain m stages).2.streams.sink) := by
  by_cases hne : stages = []
  · subst hne
    rw [chain_nil] at h ⊢
    rcases hwrite : s.streams.sink.write s.streams.pipe.output with ⟨cause | _, sink⟩
    · exact Or.inr ⟨_, cause, hwrite⟩
    · rw [hwrite] at h
      cases h
  · rw [chain_eq_finish s m hne] at h ⊢
    by_cases hgo : (Flow.ofStages m s stages).outcome = .ok .goOn
    · unfold Flow.finish at h ⊢
      rw [hgo] at h ⊢
      simp only at h ⊢
      rcases hwrite : s.streams.sink.write (Flow.ofStages m s stages).bytes with ⟨cause | _, sink⟩
      · exact Or.inr ⟨_, cause, hwrite⟩
      · rw [hwrite] at h
        cases h
    · rw [Flow.finish_of_stop hgo]
      exact Or.inl rfl

end Session

/-! ## Blank lines -/

def Text.hasInk (text : Text) : Bool := text.any fun c => !isBlank c

namespace Session

variable {s : Session} (m : Machine)

theorem ofLine_blank (vars : Variables) {text : Text} (h : text.hasInk = false) :
    ∃ stage, Stage.ofLine vars text = .ok [stage] ∧ stage.isEmpty = true := by
  have hwords : ∃ ws : List Word, Quoting.bare.words vars (Token.scan text) = .ok ws ∧
      ∀ w ∈ ws, w.isBlank = true := by
    induction text with
    | nil => exact ⟨[], rfl, by simp⟩
    | cons c r ih =>
      rw [Text.hasInk, List.any_cons, Bool.or_eq_false_iff, Bool.not_eq_false'] at h
      obtain ⟨ws, hws, hall⟩ := ih h.2
      refine ⟨.bare [c] :: ws, ?_, List.forall_mem_cons.mpr ⟨h.1, hall⟩⟩
      rw [Quoting.words_scan_blank h.1, hws]
      rfl
  obtain ⟨ws, hws, hall⟩ := hwords
  refine ⟨⟨ws⟩, ?_, List.all_eq_true.mpr hall⟩
  rw [Stage.ofLine, Word.ofTokens, hws, ← Stage.split_of_no_pipe fun w hw => Word.isPipe_of_isBlank (hall w hw)]
  rfl

/-- A blank line fails, and changes nothing. -/
theorem line_blank (hpipe : s.streams.pipe = {}) {text : Text} (h : text.hasInk = false) :
    s.line m text = (.error (.emptyStage 0 1), s) := by
  obtain ⟨stage, hline, hempty⟩ := ofLine_blank s.vars h
  have hrun : s.runStage m ⟨0, 1⟩ stage = (.error (.emptyStage 0 1), s) := by rw [runStage, if_pos hempty]
  have hstop : (s.runStage m ⟨0, 1⟩ stage).1 ≠ .ok .goOn := by simp [hrun]
  have hstages : runStages m 1 0 s [stage] = (.error (.emptyStage 0 1), s) := by
    rw [runStages_cons_stop hstop, hrun]
  rw [line_accepted m hline, chain]
  simp only [List.length_singleton, hstages]
  rw [← hpipe]
  rfl

/-! ## Lines that fail -/

/-- What a line that fails leaves of a session. It has bound what its completed stages assign, it can have
used up some of the source, and nothing is printed but what a full sink takes before it fails. -/
def Failed (m : Machine) (text : Text) (s t : Session) : Prop :=
  ∃ source sink,
    t = { vars := s.vars.assign ((Operation.line text).completed m s), directory := s.directory,
          streams := { source, sink } } ∧
      source.PartOf s.streams.source ∧
      (sink = s.streams.sink ∨ ∃ data cause, s.streams.sink.write data = (.error cause, sink))

theorem line_failed (hpipe : s.streams.pipe = {}) {text : Text} {e : LineError} (h : (s.line m text).1 = .error e) :
    Failed m text s (s.line m text).2 := by
  obtain ⟨hvars, hdirectory⟩ := (Operation.line text).vars_answer m s
  have hempty := pipe_line_empty m hpipe text
  refine ⟨(s.line m text).2.streams.source, (s.line m text).2.streams.sink, ?_, line_source m s text, ?_⟩
  · rw [← hvars, ← hdirectory, ← hempty]
    rfl
  · cases hline : Stage.ofLine s.vars text with
    | error e => exact Or.inl (by rw [line_rejected m hline])
    | ok stages =>
      rw [line_accepted m hline] at h ⊢
      exact chain_failed m h

end Session

/-! ## The console -/

theorem Console.pending_nextLine {c left : Console} {prompt text : Text}
    (h : c.nextLine prompt = (.ok (some text), left)) : left.source.pending < c.source.pending := by
  unfold nextLine at h
  rcases hwrite : c.sink.write (Utf8.encode prompt) with ⟨cause | _, sink⟩
  · rw [hwrite] at h
    cases h
  · rcases hread : c.source.readLine with ⟨cause | (_ | line), source⟩
    · rw [hwrite, hread] at h
      cases h
    · rw [hwrite, hread] at h
      cases h
    · rw [hwrite, hread] at h
      cases h
      exact Source.pending_readLine hread

theorem Console.shared_nextLine (c : Console) (prompt : Text) :
    (c.nextLine prompt).2.source.shared = c.source.shared := by
  unfold nextLine
  split
  · rfl
  · exact c.source.shared_readLine

namespace Shell

variable {sh : Shell} (m : Machine)

theorem pipe_setConsole (sh : Shell) (c : Console) :
    (sh.setConsole c).session.streams.pipe = sh.session.streams.pipe := by
  unfold setConsole
  split
  · rfl
  · rfl

theorem pipe_nextLine (sh : Shell) (prompt : Text) :
    (sh.nextLine prompt).2.session.streams.pipe = sh.session.streams.pipe :=
  sh.pipe_setConsole _

/-- What is set is what there is then, unless it makes the session share the console or no longer do so. -/
theorem console_setConsole {c : Console} (h : c.source.shared = sh.console.source.shared) :
    (sh.setConsole c).console = c := by
  unfold setConsole
  by_cases hshared : sh.session.streams.source.shared
  · have hc : c.source.shared = true := by rw [h, console, if_pos hshared]; exact hshared
    rw [if_pos hshared]
    exact if_pos hc
  · rw [if_neg hshared]
    exact if_neg hshared

theorem pending_nextLine {prompt text : Text} (h : (sh.nextLine prompt).1 = .ok (some text)) :
    (sh.nextLine prompt).2.console.source.pending < sh.console.source.pending := by
  have hconsole : (sh.nextLine prompt).2.console = (sh.console.nextLine prompt).2 :=
    console_setConsole (sh.console.shared_nextLine prompt)
  rw [hconsole]
  exact Console.pending_nextLine (Prod.ext h rfl)

/-- A line takes from the console only if the session shares it. -/
theorem console_line (h : sh.session.streams.source.shared = false) (text : Text) :
    (sh.line m text).2.console = sh.console := by
  have hsame : (sh.line m text).2.session.streams.source.shared = false :=
    (Session.line_source m sh.session text).shared.trans h
  simp only [console, h, hsame, Bool.false_eq_true, if_false]
  rfl

theorem source_line (sh : Shell) (text : Text) : (sh.line m text).2.console.source.PartOf sh.console.source := by
  cases hshared : sh.session.streams.source.shared with
  | true =>
    have hpart := Session.line_source m sh.session text
    have hsame : (sh.line m text).2.session.streams.source.shared = true := hpart.shared.trans hshared
    simp only [console, hshared, hsame, if_true]
    exact hpart
  | false =>
    rw [console_line m hshared]
    exact Source.partOf_refl _

end Shell

/-! ## The fold -/

/-- What a line tells the loop. One that fails does not end it. -/
def Signal.ofResult : Except LineError Signal → Signal
  | .ok signal => signal
  | .error _ => .goOn

structure Course where
  shell : Shell
  /-- How many lines have been read. -/
  read : Nat := 0
  /-- The lines that were executed, each with what it gave. -/
  results : List (Text × Except LineError Signal) := []
  /-- Has one of them ended the session? -/
  signal : Signal := .goOn

namespace Course

variable (machines : Nat → Machine) (prompt : Text) (runs : Text → Bool)

/-- The run after one more line, unless the session has ended: the line is read, and executed if it is
among those that are to be run. -/
def step (c : Course) (text : Text) : Course :=
  match c.signal with
  | .exit => c
  | .goOn =>
    let sh := (c.shell.nextLine prompt).2
    if runs text then
      let (result, shell) := sh.line (machines c.read) text
      { shell, read := c.read + 1, results := c.results ++ [(text, result)], signal := .ofResult result }
    else { c with shell := sh, read := c.read + 1 }

def run (c : Course) (lines : List Text) : Course := lines.foldl (step machines prompt runs) c

/-- As long as the loop asks for lines, it is given these, in order, and then the end of the source. -/
def Reads : Course → List Text → Prop
  | c, [] => c.signal = .goOn → (c.shell.nextLine prompt).1 = .ok none
  | c, text :: lines =>
    (c.signal = .goOn → (c.shell.nextLine prompt).1 = .ok (some text)) ∧
      Reads (c.step machines prompt Text.hasInk text) lines

instance decidableReads : ∀ c lines, Decidable (Reads machines prompt c lines)
  | c, [] => inferInstanceAs (Decidable (c.signal = .goOn → (c.shell.nextLine prompt).1 = .ok none))
  | c, text :: lines =>
    have := decidableReads (c.step machines prompt Text.hasInk text) lines
    inferInstanceAs (Decidable ((c.signal = .goOn → (c.shell.nextLine prompt).1 = .ok (some text)) ∧
      Reads machines prompt (c.step machines prompt Text.hasInk text) lines))

def errors (c : Course) : Text :=
  c.results.flatMap fun r =>
    match r.2 with
    | .ok _ => []
    | .error e => Session.complaint e

/-- The report at the end of the lines. Only if the session has not ended, one more is asked for. -/
def report (c : Course) : Report :=
  { shell :=
      match c.signal with
      | .exit => c.shell
      | .goOn => (c.shell.nextLine prompt).2
    errors := c.errors }

/-- The executed lines are these, up to the first that ends the session. -/
def Covers (c : Course) (lines : List Text) : Prop :=
  (c.signal = .goOn ∧ lines = c.results.map Prod.fst ∧ ∀ r ∈ c.results, r.2 ≠ .ok .exit) ∨
    (c.signal = .exit ∧ ∃ before text after, c.results = before ++ [(text, .ok .exit)] ∧
      lines = c.results.map Prod.fst ++ after ∧ ∀ r ∈ before, r.2 ≠ .ok .exit)

variable {machines prompt runs} {c : Course}

/-! ### One more line -/

theorem step_of_exit (h : c.signal = .exit) (text : Text) : c.step machines prompt runs text = c := by
  unfold step
  rw [h]

theorem step_skipped (h : c.signal = .goOn) {text : Text} (hruns : runs text = false) :
    c.step machines prompt runs text = { c with shell := (c.shell.nextLine prompt).2, read := c.read + 1 } := by
  unfold step
  rw [h]
  exact if_neg (by simp [hruns])

theorem step_executed (h : c.signal = .goOn) {text : Text} (hruns : runs text = true)
    {result : Except LineError Signal} {t : Shell}
    (hline : (c.shell.nextLine prompt).2.line (machines c.read) text = (result, t)) :
    c.step machines prompt runs text =
      { shell := t, read := c.read + 1, results := c.results ++ [(text, result)], signal := .ofResult result } := by
  unfold step
  rw [h]
  simp only [hruns, if_true, hline]

theorem run_append (lines : List Text) (text : Text) :
    c.run machines prompt runs (lines ++ [text]) =
      (c.run machines prompt runs lines).step machines prompt runs text := by
  rw [run, List.foldl_append]
  rfl

theorem run_of_exit (h : c.signal = .exit) (lines : List Text) : c.run machines prompt runs lines = c := by
  induction lines with
  | nil => rfl
  | cons text lines ih =>
    show (c.step machines prompt runs text).run machines prompt runs lines = c
    rw [step_of_exit h, ih]

/-- A line that fails does not end the run. -/
theorem step_of_error (h : c.signal = .goOn) {text : Text} {e : LineError}
    (he : ((c.shell.nextLine prompt).2.line (machines c.read) text).1 = .error e) :
    (c.step machines prompt runs text).signal = .goOn := by
  cases hruns : runs text with
  | false => rwa [step_skipped h hruns]
  | true =>
    rcases hline : (c.shell.nextLine prompt).2.line (machines c.read) text with ⟨result, t⟩
    rw [hline] at he
    rw [step_executed h hruns hline]
    exact congrArg Signal.ofResult he

/-- As long as the session goes on, every line is read. -/
theorem read_run (lines : List Text) (h : (c.run machines prompt runs lines).signal = .goOn) :
    (c.run machines prompt runs lines).read = c.read + lines.length := by
  induction lines using List.reverseRecOn with
  | nil => rfl
  | append_singleton lines text ih =>
    rw [run_append] at h ⊢
    cases hsignal : (c.run machines prompt runs lines).signal with
    | exit =>
      rw [step_of_exit hsignal, hsignal] at h
      cases h
    | goOn =>
      have hread : ((c.run machines prompt runs lines).step machines prompt runs text).read =
          (c.run machines prompt runs lines).read + 1 := by
        cases hruns : runs text with
        | false => rw [step_skipped hsignal hruns]
        | true => rw [step_executed hsignal hruns rfl]
      rw [hread, ih hsignal, List.length_append, List.length_singleton, Nat.add_assoc]

/-! ### What every line keeps -/

theorem pipe_step (h : c.shell.session.streams.pipe = {}) (text : Text) :
    (c.step machines prompt runs text).shell.session.streams.pipe = {} := by
  have hread : (c.shell.nextLine prompt).2.session.streams.pipe = {} := (Shell.pipe_nextLine _ prompt).trans h
  cases hsignal : c.signal with
  | exit => rwa [step_of_exit hsignal]
  | goOn =>
    cases hruns : runs text with
    | false =>
      rw [step_skipped hsignal hruns]
      exact hread
    | true =>
      rw [step_executed hsignal hruns rfl]
      exact Session.pipe_line_empty (machines c.read) hread text

theorem pipe_run (h : c.shell.session.streams.pipe = {}) (lines : List Text) :
    (c.run machines prompt runs lines).shell.session.streams.pipe = {} := by
  induction lines using List.reverseRecOn with
  | nil => exact h
  | append_singleton lines text ih =>
    rw [run_append]
    exact pipe_step ih text

theorem ofResult_exit_iff {result : Except LineError Signal} : Signal.ofResult result = .exit ↔ result = .ok .exit := by
  rcases result with e | signal
  · exact ⟨nofun, nofun⟩
  · exact ⟨fun h => congrArg Except.ok h, fun h => Except.ok.inj h⟩

theorem covers_step {lines : List Text} (h : c.Covers lines) (text : Text) :
    (c.step machines prompt runs text).Covers (lines ++ [text].filter runs) := by
  rcases h with ⟨hsignal, rfl, hgo⟩ | ⟨hsignal, before, last, after, hresults, rfl, hgo⟩
  · cases hruns : runs text with
    | false =>
      rw [step_skipped hsignal hruns, List.filter_cons_of_neg (by simp [hruns])]
      exact Or.inl ⟨hsignal, List.append_nil _, hgo⟩
    | true =>
      rcases hline : (c.shell.nextLine prompt).2.line (machines c.read) text with ⟨result, t⟩
      rw [step_executed hsignal hruns hline, List.filter_cons_of_pos hruns]
      cases hresult : Signal.ofResult result with
      | goOn =>
        have hnot : result ≠ .ok .exit := by
          rintro rfl
          cases hresult
        refine Or.inl ⟨rfl, by simp, ?_⟩
        simp only [List.forall_mem_append, List.forall_mem_singleton]
        exact ⟨hgo, hnot⟩
      | exit =>
        obtain rfl : result = .ok .exit := ofResult_exit_iff.mp hresult
        exact Or.inr ⟨rfl, c.results, text, [], rfl, by simp, hgo⟩
  · -- A line after the exit is one more of those that are not executed.
    rw [step_of_exit hsignal]
    exact Or.inr ⟨hsignal, before, last, after ++ [text].filter runs, hresults, List.append_assoc .., hgo⟩

theorem covers_run (sh : Shell) (lines : List Text) :
    (run machines prompt runs { shell := sh } lines).Covers (lines.filter runs) := by
  induction lines using List.reverseRecOn with
  | nil => exact Or.inl ⟨rfl, rfl, by simp [run]⟩
  | append_singleton lines text ih =>
    rw [run_append, List.filter_append]
    exact covers_step ih text

/-! ### Executing the blank lines as well -/

/-- Two runs that differ in the blank lines that they execute. -/
structure Agrees (c all : Course) : Prop where
  shell : all.shell = c.shell
  read : all.read = c.read
  signal : all.signal = c.signal
  results : all.results.filter (fun r => r.1.hasInk) = c.results

theorem agrees_step {all : Course} (hpipe : c.shell.session.streams.pipe = {}) (h : c.Agrees all) (text : Text) :
    (c.step machines prompt Text.hasInk text).Agrees (all.step machines prompt (fun _ => true) text) := by
  obtain ⟨hshell, hcount, hsame, hresults⟩ := h
  have hread : (c.shell.nextLine prompt).2.session.streams.pipe = {} :=
    (Shell.pipe_nextLine _ prompt).trans hpipe
  cases hsignal : c.signal with
  | exit =>
    rw [step_of_exit hsignal, step_of_exit (hsame.trans hsignal)]
    exact ⟨hshell, hcount, hsame, hresults⟩
  | goOn =>
    rcases hline : (c.shell.nextLine prompt).2.line (machines c.read) text with ⟨result, t⟩
    have hother : (all.shell.nextLine prompt).2.line (machines all.read) text = (result, t) := by
      rw [hshell, hcount, hline]
    rw [step_executed (hsame.trans hsignal) rfl hother, hcount]
    cases hink : text.hasInk with
    | false =>
      -- The pipe is empty here, so there is nothing that the failure could reset.
      have hblank : (c.shell.nextLine prompt).2.line (machines c.read) text =
          (.error (.emptyStage 0 1), (c.shell.nextLine prompt).2) := by
        rw [Shell.line, Session.line_blank (machines c.read) hread hink]
      cases hline.symm.trans hblank
      rw [step_skipped hsignal hink]
      exact ⟨rfl, rfl, hsignal.symm, by simp [hresults, hink]⟩
    | true =>
      rw [step_executed hsignal hink hline]
      exact ⟨rfl, rfl, rfl, by simp [hresults, hink]⟩

theorem agrees_run (hpipe : c.shell.session.streams.pipe = {}) (hnone : c.results = []) (lines : List Text) :
    (c.run machines prompt Text.hasInk lines).Agrees (c.run machines prompt (fun _ => true) lines) := by
  induction lines using List.reverseRecOn with
  | nil => exact ⟨rfl, rfl, rfl, by simp [run, hnone]⟩
  | append_singleton lines text ih =>
    rw [run_append, run_append]
    exact agrees_step (pipe_run hpipe lines) ih text

/-! ### The loop -/

def after (c : Course) (r : Report) : Report := { r with errors := c.errors ++ r.errors }

theorem after_append (results : List (Text × Except LineError Signal)) (r : Text × Except LineError Signal)
    (sh : Shell) (k : Nat) (signal : Signal) (rest : Report) :
    (⟨sh, k, results ++ [r], signal⟩ : Course).after rest =
      (⟨sh, k, results, signal⟩ : Course).after
        { rest with errors := (match r.2 with | .ok _ => [] | .error e => Session.complaint e) ++ rest.errors } := by
  simp only [after, errors, List.flatMap_append, List.flatMap_singleton, List.append_assoc]

/-- A line that is read makes the source shorter, and the loop does with it what the fold does. -/
theorem readLines_step (machines : Nat → Machine) {text : Text} (hsignal : c.signal = .goOn)
    (hread : (c.shell.nextLine prompt).1 = .ok (some text)) (n : Nat) :
    let next := c.step machines prompt Text.hasInk text
    next.shell.console.source.pending < c.shell.console.source.pending ∧
      c.after (Shell.readLines machines prompt c.read (n + 1) c.shell) =
        next.after (match next.signal with
          | .exit => ⟨next.shell, [], 0⟩
          | .goOn => Shell.readLines machines prompt next.read n next.shell) := by
  intro next
  have hpending := Shell.pending_nextLine hread
  rcases hnext : c.shell.nextLine prompt with ⟨result, t⟩
  obtain rfl : result = .ok (some text) := by rw [← hread, hnext]
  rw [hnext] at hpending
  have hall : text.all Text.isBlank = !text.hasInk := by
    rw [Text.hasInk, List.not_any_eq_all_not]
    simp
  simp only [Shell.readLines, hnext, hall]
  cases hink : text.hasInk with
  | false =>
    have hstep : next = { c with shell := t, read := c.read + 1 } :=
      (step_skipped hsignal hink).trans (by rw [hnext])
    rw [hstep, hsignal]
    exact ⟨hpending, rfl⟩
  | true =>
    have hless := (t.source_line (machines c.read) text).pending_le
    rcases hline : t.line (machines c.read) text with ⟨result, t'⟩
    rw [hline] at hless
    have hstep : next = ⟨t', c.read + 1, c.results ++ [(text, result)], .ofResult result⟩ :=
      step_executed hsignal hink (by rw [hnext, hline])
    rw [hstep]
    refine ⟨Nat.lt_of_le_of_lt hless hpending, ?_⟩
    rw [after_append]
    rcases result with e | _ | _
    · rfl
    · rfl
    · rfl

/-- The loop from a run on is the rest of the fold, if it can take as many lines as there are bytes. -/
theorem readLines_run (lines : List Text) : ∀ (c : Course) (n : Nat), c.signal = .goOn →
    Reads machines prompt c lines → c.shell.console.source.pending < n →
      c.after (Shell.readLines machines prompt c.read n c.shell) =
        (c.run machines prompt Text.hasInk lines).report prompt := by
  -- The bytes that are left decrease with every line, but by how many is not known.
  induction lines with
  | nil =>
    intro c n hsignal hreads hfuel
    obtain ⟨k, rfl⟩ := Nat.exists_eq_add_one_of_ne_zero (Nat.ne_zero_of_lt hfuel)
    have hend := hreads hsignal
    rcases hnext : c.shell.nextLine prompt with ⟨result, t⟩
    obtain rfl : result = .ok none := by rw [← hend, hnext]
    simp only [Shell.readLines, hnext, after, List.append_nil]
    show _ = c.report prompt
    rw [report, hsignal, hnext]
  | cons text lines ih =>
    intro c n hsignal ⟨hread, hreads⟩ hfuel
    obtain ⟨k, rfl⟩ := Nat.exists_eq_add_one_of_ne_zero (Nat.ne_zero_of_lt hfuel)
    obtain ⟨hless, hstep⟩ := readLines_step machines hsignal (hread hsignal) k
    rw [hstep]
    show _ = ((c.step machines prompt Text.hasInk text).run machines prompt Text.hasInk lines).report prompt
    cases hnext : (c.step machines prompt Text.hasInk text).signal with
    | goOn => exact ih _ k hnext hreads (by omega)
    | exit =>
      rw [run_of_exit hnext, report, hnext, after, List.append_nil]

/-- Unless the reader fails, there are lines that the loop is given. -/
theorem exists_reads (n : Nat) : ∀ c : Course, c.shell.console.source.pending < n →
    (Shell.readLines machines prompt c.read n c.shell).status = 0 → ∃ lines, Reads machines prompt c lines := by
  induction n with
  | zero =>
    intro c hfuel
    exact absurd hfuel (Nat.not_lt_zero _)
  | succ n ih =>
    intro c hfuel hstatus
    cases hsignal : c.signal with
    | exit => exact ⟨[], fun hgo => by rw [hsignal] at hgo; cases hgo⟩
    | goOn =>
      rcases hread : (c.shell.nextLine prompt).1 with cause | _ | text
      · rcases hnext : c.shell.nextLine prompt with ⟨result, t⟩
        obtain rfl : result = .error cause := by rw [← hread, hnext]
        simp only [Shell.readLines, hnext] at hstatus
        cases hstatus
      · exact ⟨[], fun _ => hread⟩
      · obtain ⟨hless, hstep⟩ := readLines_step machines hsignal hread n
        cases hnext : (c.step machines prompt Text.hasInk text).signal with
        | exit => exact ⟨[text], fun _ => hread, fun hgo => by rw [hnext] at hgo; cases hgo⟩
        | goOn =>
          rw [hnext] at hstep
          obtain ⟨lines, hlines⟩ := ih _ (by omega) ((congrArg Report.status hstep).symm.trans hstatus)
          exact ⟨text :: lines, fun _ => hread, hlines⟩

end Course

namespace Shell

open Course

variable {sh : Shell}

theorem reads_of_status {machines : Nat → Machine} {prompt : Text} (h : (sh.readLoop machines prompt).status = 0) :
    ∃ lines, Reads machines prompt { shell := sh } lines :=
  exists_reads _ { shell := sh } (Nat.lt_succ_self _) h

/-- The read loop is the fold of the lines that it is given, and reports its errors. It executes those
with a character that is no blank, in order, up to the first that ends the session. If it executed the
blank ones as well, the session and all other results would be the same. The pipe is empty before each
line, and one that fails does not end the loop. It leaves the session as it was, but for the variables
that its completed stages assign, the source, and what a full sink has taken. Files and programs may be
other ones at every line, and the lines may come from the session's own source or from another. -/
theorem readLoop_eq_fold (sh : Shell) (hpipe : sh.session.streams.pipe = {}) (machines : Nat → Machine)
    (prompt : Text) (lines : List Text) (hreads : Reads machines prompt { shell := sh } lines) :
    let ran := Course.run machines prompt Text.hasInk { shell := sh }
    let all := Course.run machines prompt (fun _ => true) { shell := sh }
    sh.readLoop machines prompt = (ran lines).report prompt ∧
      (ran lines).Covers (lines.filter Text.hasInk) ∧
      (ran lines).Agrees (all lines) ∧
      ∀ before text after, lines = before ++ text :: after → (ran before).signal = .goOn →
        let t := ((ran before).shell.nextLine prompt).2
        let m := machines before.length
        t.session.streams.pipe = {} ∧
          (t.session.streams.source.shared = false → (t.line m text).2.console = t.console) ∧
          ∀ e, (t.line m text).1 = .error e →
            (ran (before ++ [text])).signal = .goOn ∧
              Session.Failed m text t.session (t.line m text).2.session := by
  intro ran all
  refine ⟨?_, covers_run sh lines, agrees_run (c := { shell := sh }) hpipe rfl lines, ?_⟩
  · exact readLines_run lines { shell := sh } _ rfl hreads (Nat.lt_succ_self _)
  · intro before text _ _ hsignal t m
    have hempty : t.session.streams.pipe = {} :=
      (pipe_nextLine _ prompt).trans (Course.pipe_run (c := { shell := sh }) hpipe before)
    refine ⟨hempty, fun hshared => console_line m hshared text, fun e he => ⟨?_, Session.line_failed m hempty he⟩⟩
    have hread : (ran before).read = before.length := (read_run before hsignal).trans (Nat.zero_add _)
    rw [show ran (before ++ [text]) = _ from run_append before text]
    exact step_of_error hsignal (by rw [hread]; exact he)

/-- Six lines to read for a session that shares them, one of them blank, one with an open quote, and one
that exits. -/
def dialogue : Shell where
  session :=
    { streams := { source := { rest := Utf8.encode "x=1\n \n'\necho $x | cat\nexit\necho no\n".toList, shared := true } } }

/-- Four lines to read for a session with a source of its own. -/
def aside : Shell where
  session := { streams := { source := { rest := Utf8.encode "own".toList } } }
  apart := { source := { rest := Utf8.encode "cat f\n\ncat f\ncat\n".toList } }

def appearing (k : Nat) : Machine :=
  if k = 0 then ({} : Host).machine
  else ({ tree := ({} : Host.Tree).add (Host.location "/f") (.file [49, 10] false) } : Host).machine

theorem readLoop_eq_fold_dialogue :
    let m (_ : Nat) : Machine := ({} : Host).machine
    let lines := ["x=1", " ", "'", "echo $x | cat", "exit", "echo no"].map String.toList
    let others := ["cat f", "", "cat f", "cat"].map String.toList
    let prompt := "> ".toList
    dialogue.session.streams.pipe = {} ∧ Reads m [] { shell := dialogue } lines ∧
      (dialogue.readLoop m []).shell.session.streams.sink.written = [49, 10] ∧
      (dialogue.readLoop m []).errors = "syntax error: unterminated ' quote\n".toList ∧
      (Course.run m [] (fun _ => true) { shell := dialogue } lines).shell.session.streams.sink.written = [49, 10] ∧
      aside.session.streams.pipe = {} ∧ Reads appearing prompt { shell := aside } others ∧
      (aside.readLoop appearing prompt).shell.session.streams.sink.written =
        "cat: f: No such file or directory (os error 2)\n1\nown".toUTF8.data.toList ∧
      (aside.readLoop appearing prompt).shell.apart.sink.written = "> > > > > ".toUTF8.data.toList := by
  intro m lines others prompt
  have hreads : Reads m [] { shell := dialogue } lines := by decide +kernel
  have hothers : Reads appearing prompt { shell := aside } others := by decide +kernel
  obtain ⟨hloop, -, hagrees, -⟩ := readLoop_eq_fold dialogue rfl m [] lines hreads
  obtain ⟨haside, -⟩ := readLoop_eq_fold aside rfl appearing prompt others hothers
  have hprinted : (Course.run m [] Text.hasInk { shell := dialogue } lines).shell.session.streams.sink.written =
      [49, 10] := by
    decide +kernel
  refine ⟨rfl, hreads, ?_, ?_, ?_, rfl, hothers, ?_, ?_⟩
  · rw [hloop]
    decide +kernel
  · rw [hloop]
    decide +kernel
  · rw [hagrees.shell]
    exact hprinted
  · rw [haside]
    decide +kernel
  · rw [haside]
    decide +kernel

end Shell

end LineShell
