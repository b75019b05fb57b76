import LineShell.Proofs.History

/-!
Operations of a session are isolated from one another by an empty pipe. What was printed before is
only a frame around an operation. What a failing direct run has left in the pipe is not: the next
operation that reads the pipe or prints finds it there.

  - `answer_behind`: an operation does the same behind any bytes printed before.
  - `printed_of_clear`: with nothing in the pipe, an operation prints a part of what its own last
    command writes, and nothing else.
  - `pipe_settled`: as long as no failing run has written anything, nothing is left in the pipe.
  - `isolated_iff_clear`: at any point of any history, all operations are isolated from the history
    before them if, and only if, it has left nothing in the pipe.
-/

namespace LineShell

/-! ## What was printed before -/

/-- The sink, had these bytes been taken before all others. -/
def Sink.behind (sink : Sink) (earlier : Bytes) : Sink := { sink with written := earlier ++ sink.written }

theorem Sink.write_behind (sink : Sink) (earlier data : Bytes) :
    (sink.behind earlier).write data = ((sink.write data).1, (sink.write data).2.behind earlier) := by
  rcases sink with ⟨_ | room, written⟩
  · simp [Sink.write, Sink.behind]
  · simp [Sink.write, Sink.behind]

/-- A sink takes a part of what is written to it, from the left. -/
theorem Sink.written_write (sink : Sink) (data : Bytes) :
    ∃ n, (sink.write data).2.written = sink.written ++ data.take n := by
  rcases sink with ⟨_ | room, written⟩
  · exact ⟨data.length, by simp [Sink.write]⟩
  · exact ⟨room, rfl⟩

theorem Sink.written_of_ok {sink after : Sink} {data : Bytes} (h : sink.write data = (.ok (), after)) :
    after.written = sink.written ++ data := by
  rcases sink with ⟨_ | room, written⟩
  · cases h
    rfl
  · simp only [Sink.write, Prod.mk.injEq] at h
    obtain ⟨hfits, rfl⟩ := h
    split at hfits
    · rename_i hroom
      exact congrArg (written ++ ·) (List.take_of_length_le hroom)
    · cases hfits

namespace Session

/-- The session, had these bytes been printed before all others. -/
def behind (s : Session) (earlier : Bytes) : Session := s.setSink (s.streams.sink.behind earlier)

/-- A session in which nothing was done yet, with the variables, the directory, the source and the
room of this one. -/
def afresh (s : Session) : Session :=
  { s with streams := { source := s.streams.source, sink := { room := s.streams.sink.room } } }

theorem afresh_behind {s : Session} (h : s.streams.pipe = {}) : s.afresh.behind s.streams.sink.written = s := by
  rcases s with ⟨vars, directory, pipe, source, room, written⟩
  obtain rfl : pipe = {} := h
  simp [afresh, behind, setSink, setStreams, Sink.behind]

variable (s : Session) (earlier : Bytes) (m : Machine)

@[simp] theorem behind_vars : (s.behind earlier).vars = s.vars := rfl

@[simp] theorem behind_directory : (s.behind earlier).directory = s.directory := rfl

@[simp] theorem behind_source : (s.behind earlier).streams.source = s.streams.source := rfl

@[simp] theorem behind_pipe : (s.behind earlier).streams.pipe = s.streams.pipe := rfl

@[simp] theorem behind_sink : (s.behind earlier).streams.sink = s.streams.sink.behind earlier := rfl

theorem setInput_behind (i : Input) : (s.behind earlier).setInput i = (s.setInput i).behind earlier := by
  cases i <;> rfl

theorem deliver_behind {p : Position} (hp : p.isLast = true) (output : Bytes) (code : Int) :
    (s.behind earlier).deliver p output code =
      ((s.deliver p output code).1, (s.deliver p output code).2.behind earlier) := by
  rw [deliver_flush _ hp, deliver_flush _ hp]
  simp only [behind_pipe, behind_sink, Sink.write_behind]
  rcases s.streams.sink.write (s.streams.pipe.output ++ output) with ⟨_ | _, sink⟩
  · rfl
  · rfl

theorem run_behind (name : Text) (arguments : List Text) :
    (s.behind earlier).run m name arguments =
      ((s.run m name arguments).1, (s.run m name arguments).2.behind earlier) := by
  simp only [run_eq, behind_directory, behind_source]
  rcases Command.reply m s.directory name arguments (.source s.streams.source) with ⟨e | reply, rest⟩
  · simp only [setInput_behind]
  · simp only [setInput_behind]
    exact deliver_behind (s.setInput rest) earlier rfl reply.output reply.code

theorem finish_behind (flow : Flow) :
    flow.finish (s.behind earlier) = ((flow.finish s).1, (flow.finish s).2.behind earlier) := by
  simp only [Flow.finish, behind_sink, Sink.write_behind]
  split
  · rcases s.streams.sink.write flow.bytes with ⟨_ | _, sink⟩
    · rfl
    · rfl
  · rfl

theorem chain_behind (stages : List Stage) :
    (s.behind earlier).chain m stages =
      ((s.chain m stages).1, (s.chain m stages).2.behind earlier) := by
  by_cases hne : stages = []
  · subst hne
    simp only [chain_nil, behind_pipe, behind_sink, Sink.write_behind]
    rcases s.streams.sink.write s.streams.pipe.output with ⟨_ | _, sink⟩
    · rfl
    · rfl
  · rw [chain_eq_finish _ m hne, chain_eq_finish _ m hne]
    exact finish_behind s earlier (Flow.ofStages m s stages)

/-- An operation does the same behind any bytes printed before. -/
theorem answer_behind (o : Operation) :
    o.answer m (s.behind earlier) = ((o.answer m s).1, (o.answer m s).2.behind earlier) := by
  cases o with
  | line text =>
    have hvars := behind_vars s earlier
    simp only [Operation.answer]
    cases hline : Stage.ofLine s.vars text with
    | error e => rw [line_rejected m hline, line_rejected m (hvars ▸ hline)]
    | ok stages => rw [line_accepted m hline, line_accepted m (hvars ▸ hline), chain_behind]
  | chain stages => simp only [Operation.answer, chain_behind]
  | run name arguments => simp only [Operation.answer, run_behind]

end Session

/-! ## What an operation prints -/

/-- What the last command of an operation writes. -/
def Operation.written (m : Machine) (s : Session) : Operation → Bytes
  | line text =>
    match Stage.ofLine s.vars text with
    | .ok stages => (Flow.ofStages m s stages).bytes
    | .error _ => []
  | chain stages => (Flow.ofStages m s stages).bytes
  | run name arguments => Command.written m s.directory name arguments s.streams.source

namespace Session

variable {s : Session} (m : Machine)

theorem printed_chain (h : s.streams.pipe.output = []) (stages : List Stage) :
    ∃ n, (s.chain m stages).2.streams.sink.written =
      s.streams.sink.written ++ (Flow.ofStages m s stages).bytes.take n := by
  by_cases hne : stages = []
  · subst hne
    rw [chain_nil, h, Sink.write_nil]
    exact ⟨0, (List.append_nil _).symm⟩
  · rw [chain_eq_finish s m hne]
    unfold Flow.finish
    split
    · obtain ⟨n, hn⟩ := s.streams.sink.written_write (Flow.ofStages m s stages).bytes
      refine ⟨n, ?_⟩
      rw [← hn]
      rcases s.streams.sink.write (Flow.ofStages m s stages).bytes with ⟨_ | _, sink⟩
      · rfl
      · rfl
    · exact ⟨0, (List.append_nil _).symm⟩

theorem printed_run (h : s.streams.pipe.output = []) (name : Text) (arguments : List Text) :
    ∃ n, (s.run m name arguments).2.streams.sink.written =
      s.streams.sink.written ++ (Command.written m s.directory name arguments s.streams.source).take n := by
  unfold Command.written
  rw [run_eq]
  rcases Command.reply m s.directory name arguments (.source s.streams.source) with ⟨e | reply, rest⟩
  · exact ⟨0, by simp⟩
  · obtain ⟨n, hn⟩ := s.streams.sink.written_write reply.output
    refine ⟨n, ?_⟩
    simp only [deliver_flush _ (show Position.alone.isLast = true from rfl), setInput_sink, setInput_output, h,
      List.nil_append]
    rw [← hn]
    rcases s.streams.sink.write reply.output with ⟨_ | _, sink⟩
    · rfl
    · rfl

/-- With nothing in the pipe, an operation prints a part of what its own last command writes. -/
theorem printed_of_clear (h : s.streams.pipe.output = []) (o : Operation) :
    ∃ n, (o.answer m s).2.streams.sink.written = s.streams.sink.written ++ (o.written m s).take n := by
  cases o with
  | line text =>
    simp only [Operation.answer, Operation.written]
    cases hline : Stage.ofLine s.vars text with
    | error e =>
      rw [line_rejected m hline]
      exact ⟨0, (List.append_nil _).symm⟩
    | ok stages =>
      rw [line_accepted m hline]
      exact printed_chain m h stages
  | chain stages => exact printed_chain m h stages
  | run name arguments => exact printed_run m h name arguments

end Session

/-! ## Isolation -/

/-- An operation that has nothing to do with those before it. It says and does what it would in a
session in which nothing was done yet, and adds to what is printed a part of what its own last
command writes there. -/
def Operation.Isolated (m : Machine) (s : Session) (o : Operation) : Prop :=
  o.answer m s = ((o.answer m s.afresh).1, (o.answer m s.afresh).2.behind s.streams.sink.written) ∧
    ∃ n, (o.answer m s.afresh).2.streams.sink.written = (o.written m s.afresh).take n

/-- A direct run that fails has written nothing. -/
def Event.Settles (s : Session) : Event → Prop
  | perform m (.run name arguments) =>
    (s.run m name arguments).1.isOk = true ∨
      Command.written m s.directory name arguments s.streams.source = []
  | _ => True

namespace Session

def Settled : Session → List Event → Prop
  | _, [] => True
  | s, e :: history => e.Settles s ∧ (s.step e).Settled history

variable {s : Session} (m : Machine)

theorem isolated_of_clear (h : s.streams.pipe = {}) (o : Operation) : o.Isolated m s := by
  have hanswer := answer_behind s.afresh s.streams.sink.written m o
  rw [afresh_behind h] at hanswer
  exact ⟨hanswer, printed_of_clear m rfl o⟩

/-- A chain without stages shows what was left in the pipe. -/
theorem clear_of_isolated (h : (Operation.chain []).Isolated m s) : s.streams.pipe.output = [] := by
  have hfresh : s.afresh.chain m [] = (.ok .goOn, s.afresh) := by
    rw [chain_nil, show s.afresh.streams.pipe.output = [] from rfl, Sink.write_nil]
    rfl
  have hchain := h.1
  simp only [Operation.answer, hfresh, chain_nil, Prod.mk.injEq] at hchain
  rcases hwrite : s.streams.sink.write s.streams.pipe.output with ⟨cause | _, sink⟩
  · rw [hwrite] at hchain
    cases hchain.1
  · rw [hwrite] at hchain
    have htaken : sink.written = s.streams.sink.written ++ [] :=
      congrArg (fun t : Session => t.streams.sink.written) hchain.2
    rw [Sink.written_of_ok hwrite] at htaken
    exact List.append_cancel_left htaken

/-- A failing run that has written nothing leaves nothing in an empty pipe. -/
theorem pipe_step_settled {e : Event} (hsettles : e.Settles s) (h : s.streams.pipe = {}) :
    (s.step e).streams.pipe = {} := by
  by_cases hrun : ∃ m name arguments, e = .perform m (.run name arguments)
  · obtain ⟨m, name, arguments, rfl⟩ := hrun
    have hpipe := pipe_run s m name arguments
    show (s.run m name arguments).2.streams.pipe = {}
    rw [hpipe, h]
    rcases hsettles with hok | hwritten
    · cases hr : (s.run m name arguments).1 with
      | ok code => rfl
      | error e => rw [hr] at hok; cases hok
    · rw [hwritten]
      split
      · rfl
      · rfl
  · exact pipe_step h fun m name arguments heq => hrun ⟨m, name, arguments, heq⟩

theorem pipe_settled {history : List Event} (hsettled : s.Settled history) (h : s.streams.pipe = {}) :
    (s.through history).streams.pipe = {} := by
  induction history generalizing s with
  | nil => exact h
  | cons e history ih => exact ih hsettled.2 (pipe_step_settled hsettled.1 h)

/-- At any point of any history, all operations are isolated from what happened before if, and only
if, nothing is left in the output of the pipe. That is so as long as no failing run has written
anything. -/
theorem isolated_iff_clear (directory : Text) (source : Source) (sink : Sink) (history : List Event)
    (m : Machine) :
    let s := (opened directory source sink).through history
    ((∀ o : Operation, o.Isolated m s) ↔ s.streams.pipe.output = []) ∧
      ((opened directory source sink).Settled history → s.streams.pipe.output = []) := by
  intro s
  have hinput : s.streams.pipe.input = [] := input_through rfl history
  refine ⟨⟨fun h => clear_of_isolated m (h _), fun h o => isolated_of_clear m ?_ o⟩, fun hsettled => ?_⟩
  · show Pipe.mk s.streams.pipe.output s.streams.pipe.input = {}
    rw [h, hinput]
  · have hpipe : s.streams.pipe = {} := pipe_settled hsettled rfl
    rw [hpipe]

def halted : List Event :=
  [.room (some 1), .perform ({} : Host).machine (.line "echo ab".toList),
    .perform ({} : Host).machine (.run "ab".toList []), .room none]

/-- After these failures, all operations are isolated. -/
theorem isolated_iff_clear_halted :
    (opened Path.here {} {}).Settled halted ∧
      ((opened Path.here {} {}).through halted).streams.sink.written = [97] ∧
      ((opened Path.here {} {}).through halted).streams.pipe.output = [] ∧
      ∀ o : Operation, o.Isolated ({} : Host).machine ((opened Path.here {} {}).through halted) := by
  have hsettled : (opened Path.here {} {}).Settled halted := by
    refine ⟨trivial, trivial, Or.inr ?_, trivial, trivial⟩
    decide
  obtain ⟨hisolated, hclear⟩ := isolated_iff_clear Path.here {} {} halted ({} : Host).machine
  refine ⟨hsettled, ?_, hclear hsettled, hisolated.mpr (hclear hsettled)⟩
  decide +kernel

/-- A direct run that prints one byte of three, and room again after it. -/
def spilled : List Event :=
  [.room (some 1), .perform ({} : Host).machine (.run "echo".toList ["ab".toList]), .room none]

/-- The next run prints all three bytes in front of its own, the first one for the second time, and
the first stage of a line reads them. -/
theorem spilled_not_isolated :
    let s := (opened Path.here {} {}).through spilled
    let m := ({} : Host).machine
    s.streams.sink.written = [97] ∧
      (s.run m "echo".toList ["c".toList]).2.streams.sink.written = [97, 97, 98, 10, 99, 10] ∧
      (s.chain m copyTwice).2.streams.sink.written = [97, 97, 98, 10] ∧
      ¬ (Operation.run "echo".toList ["c".toList]).Isolated m s ∧ ¬ (Operation.chain copyTwice).Isolated m s := by
  intro s m
  refine ⟨by decide, by decide, by decide, fun h => ?_, fun h => ?_⟩
  · exact absurd (congrArg (fun a => a.2.streams.sink.written) h.1) (by decide)
  · exact absurd (congrArg (fun a => a.2.streams.sink.written) h.1) (by decide)

end Session

end LineShell
