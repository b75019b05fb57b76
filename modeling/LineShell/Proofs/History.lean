import LineShell.Proofs.Composition

/-!
Histories of a session: any sequence of lines, chains and direct runs, with changes from outside
between them. Files and programs may be others at every operation, the source may be another one,
and the sink may get room again after it was full.

  - `run_eq` / `deliver_flush`: a direct run is the reply of its command, delivered behind what the
    pipe holds.
  - `chain_eq_finish` / `chain_nil`: a chain is the fold of its stages.
  - `pipe_run` / `pipe_chain` / `pipe_line`: what each operation leaves in the pipe.
  - `pipe_between`: what the pipe holds between the operations of any history.
-/

namespace LineShell

inductive Operation where
  | line (text : Text)
  | chain (stages : List Stage)
  /-- A command outside any pipeline. -/
  | run (name : Text) (arguments : List Text)

inductive Verdict where
  | signal (signal : Signal)
  | code (code : Int)
  deriving DecidableEq, Repr

/-- Carry out an operation, with the files and programs that there are at that time. -/
def Operation.answer (m : Machine) (s : Session) : Operation → Answer Verdict
  | line text => ((s.line m text).1.map .signal, (s.line m text).2)
  | chain stages => ((s.chain m stages).1.map .signal, (s.chain m stages).2)
  | run name arguments => ((s.run m name arguments).1.map .code, (s.run m name arguments).2)

inductive Event where
  | perform (m : Machine) (o : Operation)
  /-- A variable is bound from outside. -/
  | bind (name value : Text)
  /-- The session goes to another directory. -/
  | enter (directory : Text)
  /-- From now on there is this to read. -/
  | feed (source : Source)
  /-- From now on the sink takes so many bytes. -/
  | room (bytes : Option Nat)

/-- The bytes that a command outside any pipeline has written when it ends. One that fails has
written nothing. -/
def Command.written (m : Machine) (directory name : Text) (arguments : List Text) (source : Source) :
    Bytes :=
  match (Command.reply m directory name arguments (.source source)).1 with
  | .ok reply => reply.output
  | .error _ => []

namespace Source

/-- What can be left of a source: no data that was not there, and the same end. -/
def PartOf (left source : Source) : Prop :=
  ∃ ahead rest, left = { source with ahead := source.ahead.drop ahead, rest := source.rest.drop rest }

theorem partOf_refl (source : Source) : source.PartOf source := ⟨0, 0, rfl⟩

theorem partOf_readAll (source : Source) : source.readAll.2.PartOf source := by
  refine ⟨source.ahead.length, source.rest.length, ?_⟩
  rw [List.drop_length, List.drop_length, readAll]
  split
  · rfl
  · rfl

theorem PartOf.drop {left source : Source} (h : left.PartOf source) (n : Nat) :
    ({ left with rest := left.rest.drop n } : Source).PartOf source := by
  obtain ⟨ahead, rest, rfl⟩ := h
  exact ⟨ahead, rest + n, by rw [List.drop_drop]⟩

end Source

namespace Session

def opened (directory : Text) (source : Source) (sink : Sink) : Session :=
  { directory, streams := { source, sink } }

def step (s : Session) : Event → Session
  | .perform m o => (o.answer m s).2
  | .bind name value => { s with vars := s.vars.set name value }
  | .enter directory => { s with directory }
  | .feed source => s.setInput (.source source)
  | .room bytes => s.setSink { s.streams.sink with room := bytes }

def through (s : Session) (history : List Event) : Session := history.foldl step s

theorem through_induction {P : Session → Prop} {history : List Event} {s : Session} (h : P s)
    (hstep : ∀ e ∈ history, ∀ s, P s → P (s.step e)) : P (s.through history) := by
  induction history generalizing s with
  | nil => exact h
  | cons e history ih =>
    apply ih
    · exact hstep e (List.mem_cons_self ..) s h
    · exact fun e he => hstep e (List.mem_cons_of_mem _ he)

variable (s : Session) (m : Machine)

/-! ## A direct run -/

theorem handOver_source (source : Source) :
    ∃ left, (Input.source source).handOver.2 = .source left ∧ left.PartOf source := by
  cases hs : source.shared with
  | true => exact ⟨source, by simp only [Input.handOver, hs, if_true], source.partOf_refl⟩
  | false =>
    refine ⟨source.readAll.2, ?_, source.partOf_readAll⟩
    simp only [Input.handOver, hs, Bool.false_eq_true, if_false, Input.readAll]

theorem reply_source (directory name : Text) (arguments : List Text) (source : Source) :
    ∃ left, (Command.reply m directory name arguments (.source source)).2 = .source left ∧ left.PartOf source := by
  simp only [Command.reply]
  cases Builtin.find? ⟨m, directory⟩ name with
  | some behaviour =>
    simp only
    cases behaviour arguments with
    | prints reply => exact ⟨source, rfl, source.partOf_refl⟩
    | reads reply => exact ⟨source.readAll.2, rfl, source.partOf_readAll⟩
  | none =>
    cases Lookup.find? m name with
    | none => exact ⟨source, rfl, source.partOf_refl⟩
    | some program =>
      obtain ⟨left, hleft, hpart⟩ := handOver_source source
      simp only [programReply]
      rcases hi : (Input.source source).handOver with ⟨cause | data, rest⟩
      · exact ⟨left, by rw [← hleft, hi], hpart⟩
      · obtain rfl : rest = .source left := by rw [← hleft, hi]
        simp only
        cases m.start { program, arguments, directory, input := data } with
        | none => exact ⟨left, rfl, hpart⟩
        | some outcome =>
          refine ⟨_, rfl, ?_⟩
          split
          · exact hpart.drop outcome.consumed
          · exact hpart

/-- A direct run is the reply of its command to the source, and then the delivery of that reply. -/
theorem run_eq (name : Text) (arguments : List Text) :
    s.run m name arguments =
      match Command.reply m s.directory name arguments (.source s.streams.source) with
      | (.ok reply, rest) => (s.setInput rest).deliver .alone reply.output reply.code
      | (.error e, rest) => (.error e, s.setInput rest) :=
  runAt_eq s m .alone name arguments

/-- At the end of a line, output goes to the sink behind what the pipe holds. If they do not fit,
both stay in the pipe. -/
theorem deliver_flush {p : Position} (hp : p.isLast = true) (output : Bytes) (code : Int) :
    s.deliver p output code =
      match s.streams.sink.write (s.streams.pipe.output ++ output) with
      | (.ok (), sink) => (.ok code, (s.setOutput []).setSink sink)
      | (.error cause, sink) =>
        (.error (.command cause), (s.setOutput (s.streams.pipe.output ++ output)).setSink sink) := by
  simp only [deliver, Streams.flush, hp, if_true, Streams.append, Pipe.append, Pipe.flush]
  rcases s.streams.sink.write (s.streams.pipe.output ++ output) with ⟨_ | _, sink⟩
  · rfl
  · rfl

/-- A successful run empties the output; a failing one leaves what its command wrote behind what was
there. The input is not touched. -/
theorem pipe_run (name : Text) (arguments : List Text) :
    (s.run m name arguments).2.streams.pipe =
      match (s.run m name arguments).1 with
      | .ok _ => { s.streams.pipe with output := [] }
      | .error _ =>
        { s.streams.pipe with
          output := s.streams.pipe.output ++ Command.written m s.directory name arguments s.streams.source } := by
  obtain ⟨left, hleft, -⟩ := reply_source m s.directory name arguments s.streams.source
  unfold Command.written
  rw [run_eq]
  rcases hr : Command.reply m s.directory name arguments (.source s.streams.source) with ⟨e | reply, rest⟩
  · obtain rfl : rest = .source left := by rw [← hleft, hr]
    simp only [List.append_nil]
    rfl
  · obtain rfl : rest = .source left := by rw [← hleft, hr]
    simp only [deliver_flush _ (show Position.alone.isLast = true from rfl), setInput_sink, setInput_output]
    rcases s.streams.sink.write (s.streams.pipe.output ++ reply.output) with ⟨_ | _, sink⟩
    · rfl
    · rfl

/-! ## A chain and a line -/

theorem chain_eq_finish {stages : List Stage} (hne : stages ≠ []) :
    s.chain m stages = (Flow.ofStages m s stages).finish s :=
  chain_of_ends (runStages_eq stages (Flow.start s) 0 s.streams.pipe.input rfl hne (Nat.zero_add _))

/-- A chain without a stage sends to the sink what the pipe holds. -/
theorem chain_nil :
    s.chain m [] =
      match s.streams.sink.write s.streams.pipe.output with
      | (.ok (), sink) => (.ok .goOn, (s.setOutput []).setSink sink)
      | (.error cause, sink) => (.error (.transfer cause), (s.setPipe {}).setSink sink) := by
  simp only [chain, runStages, flush, Pipe.flush]
  rcases s.streams.sink.write s.streams.pipe.output with ⟨_ | _, sink⟩
  · rfl
  · rfl

theorem pipe_finish (flow : Flow) : (flow.finish s).2.streams.pipe = {} := by
  unfold Flow.finish
  repeat' split
  all_goals rfl

variable {s}

/-- However a chain ends, nothing is left in the pipe. -/
theorem pipe_chain (h : s.streams.pipe.input = []) (stages : List Stage) :
    (s.chain m stages).2.streams.pipe = {} := by
  by_cases hne : stages = []
  · subst hne
    rw [chain_nil]
    rcases s.streams.sink.write s.streams.pipe.output with ⟨_ | _, sink⟩
    · rfl
    · show Pipe.mk [] s.streams.pipe.input = {}
      rw [h]
  · rw [chain_eq_finish s m hne, pipe_finish]

/-- A line that is rejected before it runs leaves the session as it was. -/
theorem line_rejected {text : Text} {e : LineError} (h : Stage.ofLine s.vars text = .error e) :
    s.line m text = (.error e, s) := by
  simp only [line, h]

theorem line_accepted {text : Text} {stages : List Stage} (h : Stage.ofLine s.vars text = .ok stages) :
    s.line m text = s.chain m stages := by
  simp only [line, h]

theorem pipe_line (h : s.streams.pipe.input = []) (text : Text) :
    (s.line m text).2.streams.pipe =
      match Stage.ofLine s.vars text with
      | .ok _ => {}
      | .error _ => s.streams.pipe := by
  cases hline : Stage.ofLine s.vars text with
  | error e => rw [line_rejected m hline]
  | ok stages => rw [line_accepted m hline, pipe_chain m h]

theorem pipe_line_empty (h : s.streams.pipe = {}) (text : Text) : (s.line m text).2.streams.pipe = {} := by
  have hinput : s.streams.pipe.input = [] := by rw [h]
  rw [pipe_line m hinput]
  split
  · rfl
  · exact h

/-! ## The pipe between operations -/

/-- No event leaves anything to read in the pipe. -/
theorem input_step (h : s.streams.pipe.input = []) (e : Event) : (s.step e).streams.pipe.input = [] := by
  cases e with
  | perform m o =>
    cases o with
    | line text =>
      have hpipe := pipe_line m h text
      show (s.line m text).2.streams.pipe.input = []
      rw [hpipe]
      split
      · rfl
      · exact h
    | chain stages =>
      show (s.chain m stages).2.streams.pipe.input = []
      rw [pipe_chain m h]
    | run name arguments =>
      have hpipe := pipe_run s m name arguments
      show (s.run m name arguments).2.streams.pipe.input = []
      rw [hpipe]
      split
      · exact h
      · exact h
  | bind name value => exact h
  | enter directory => exact h
  | feed source => exact h
  | room bytes => exact h

theorem input_through (h : s.streams.pipe.input = []) (history : List Event) :
    (s.through history).streams.pipe.input = [] :=
  through_induction (P := fun s => s.streams.pipe.input = []) h fun e _ _ hs => input_step hs e

/-- Only a direct run can leave anything in an empty pipe. -/
theorem pipe_step (h : s.streams.pipe = {}) {e : Event}
    (hrun : ∀ m name arguments, e ≠ .perform m (.run name arguments)) : (s.step e).streams.pipe = {} := by
  have hinput : s.streams.pipe.input = [] := by rw [h]
  cases e with
  | perform m o =>
    cases o with
    | line text => exact pipe_line_empty m h text
    | chain stages => exact pipe_chain m hinput stages
    | run name arguments => exact absurd rfl (hrun m name arguments)
  | bind name value => exact h
  | enter directory => exact h
  | feed source => exact h
  | room bytes => exact h

/-- The pipe at any point of any history. Its input is empty. A chain leaves both sides empty, and so
does a line, unless it is rejected before it runs and changes nothing. A successful run leaves no
output, and a failing one what its command wrote, behind what was there before. So without direct
runs the pipe is empty between the operations. -/
theorem pipe_between (directory : Text) (source : Source) (sink : Sink) (history : List Event) (m : Machine) :
    let s := (opened directory source sink).through history
    s.streams.pipe.input = [] ∧
      (∀ stages, (s.chain m stages).2.streams.pipe = {}) ∧
      (∀ text, (s.line m text).2.streams.pipe =
        match Stage.ofLine s.vars text with
        | .ok _ => {}
        | .error _ => s.streams.pipe) ∧
      (∀ name arguments, (s.run m name arguments).2.streams.pipe =
        match (s.run m name arguments).1 with
        | .ok _ => {}
        | .error _ =>
          { output := s.streams.pipe.output ++ Command.written m s.directory name arguments s.streams.source }) ∧
      ((∀ m name arguments, .perform m (.run name arguments) ∉ history) → s.streams.pipe = {}) := by
  intro s
  have hinput : s.streams.pipe.input = [] := input_through rfl history
  refine ⟨hinput, pipe_chain m hinput, pipe_line m hinput, fun name arguments => ?_, fun hrun => ?_⟩
  · simp only [pipe_run, hinput]
  · refine through_induction (P := fun s => s.streams.pipe = {}) rfl fun e he t ht => pipe_step ht ?_
    rintro m name arguments rfl
    exact hrun m name arguments he

/-- Lines and chains that fail in every way: one prints a byte of three, one is rejected, one breaks
off, and one has no stage. -/
def failures : List Event :=
  [.room (some 1), .perform ({} : Host).machine (.line "echo ab".toList),
    .perform ({} : Host).machine (.line "x=1 '".toList), .perform ({} : Host).machine (.line "cat | | cat".toList),
    .perform ({} : Host).machine (.chain [])]

theorem pipe_between_failures :
    (∀ m name arguments, .perform m (.run name arguments) ∉ failures) ∧
      ((opened Path.here {} {}).through failures).streams.pipe = {} := by
  have hrun : ∀ m name arguments, Event.perform m (.run name arguments) ∉ failures := by
    intro m name arguments
    simp [failures]
  obtain ⟨-, -, -, -, hpipe⟩ := pipe_between Path.here {} {} failures ({} : Host).machine
  exact ⟨hrun, hpipe hrun⟩

end Session

end LineShell
