import LineShell.Session

/-!
What a stage does, taken as a function. It has the variables, the directory, the machine and
something to read, and gives an outcome, variables, bytes, and what is left to read. Nothing here
knows of a pipe or a sink.

  - `runAt_eq`: running a command is its reply to what it can read, and then the delivery of that
    reply.
  - `perform_inner` / `perform_last`: the same of what a stage asks for.
  - `reply_code_nonneg`: no command but `exit` asks to end the session.
  - `Command.reply_error_cases`: why a command gives no reply.
  - `effect_silent`: a stage after which the line does not go on has written nothing.
  - `effect_rest_upstream`: a stage that is not alone leaves the source alone.
-/

namespace LineShell

/-! ## What there is to read -/

/-- A stage that is alone reads the session's source, any other what the stage before it wrote. -/
inductive Input where
  | source (source : Source)
  | upstream (data : Bytes)
  deriving DecidableEq, Repr

namespace Input

def readAll : Input → Except Text Bytes × Input
  | source src => (src.readAll.1, source src.readAll.2)
  | upstream data => (.ok data, upstream [])

/-- What a program is handed. A shared source is handed over as it is. -/
def handOver : Input → Except Text Bytes × Input
  | source src => if src.shared then (.ok src.rest, source src) else (source src).readAll
  | upstream data => (upstream data).readAll

def consume (n : Nat) : Input → Input
  | source src => source (if src.shared then { src with rest := src.rest.drop n } else src)
  | upstream data => upstream data

end Input

/-! ## Commands -/

/-- The reply of a built-in command, and what it leaves to read. A failure to read is reported. -/
def Builtin.Behaviour.answer : Builtin.Behaviour → Input → Builtin.Reply × Input
  | .prints reply, input => (reply, input)
  | .reads reply, input =>
    (match input.readAll.1 with
      | .ok data => reply data
      | .error cause => ⟨Utf8.encode (cause ++ ['\n']), 1⟩,
      input.readAll.2)

def programReply (m : Machine) (directory program : Text) (arguments : List Text) (input : Input) :
    Except LineError Builtin.Reply × Input :=
  match input.handOver with
  | (.error cause, rest) => (.error (.command cause), rest)
  | (.ok data, rest) =>
    match m.start { program, arguments, directory, input := data } with
    | none => (.error (Session.spawnFailure program), rest)
    | some outcome => (.ok ⟨outcome.output, outcome.ending.code⟩, rest.consume outcome.consumed)

def Command.reply (m : Machine) (directory name : Text) (arguments : List Text) (input : Input) :
    Except LineError Builtin.Reply × Input :=
  match Builtin.find? ⟨m, directory⟩ name with
  | some behaviour =>
    (.ok ((behaviour arguments).answer input).1, ((behaviour arguments).answer input).2)
  | none =>
    match Lookup.find? m name with
    | some program => programReply m directory program arguments input
    | none => (.error (.unknownCommand name), input)

/-! ## Stages -/

structure Effect where
  outcome : Except LineError Signal
  vars : Variables
  output : Bytes := []
  /-- What is left to read. -/
  rest : Input

def Effect.ofReply (vars : Variables) : Except LineError Builtin.Reply × Input → Effect
  | (.ok reply, rest) => { outcome := .ok (.ofCode reply.code), vars, output := reply.output, rest }
  | (.error e, rest) => { outcome := .error e, vars, rest }

def Command.effect (m : Machine) (directory : Text) (vars : Variables) (input : Input) :
    Command → Effect
  | .assign name value => { outcome := .ok .goOn, vars := vars.set name value, rest := input }
  | .call [] => { outcome := .ok .goOn, vars, rest := input }
  | .call (name :: arguments) => .ofReply vars (Command.reply m directory name arguments input)

/-- What a stage gives at its position, which only the report of an empty stage shows. -/
def Stage.effect (m : Machine) (directory : Text) (p : Position) (vars : Variables) (input : Input)
    (stage : Stage) : Effect :=
  if stage.isEmpty then
    { outcome := .error (.emptyStage p.index p.total), vars, rest := input }
  else (Command.ofStage stage).effect m directory vars input

namespace Session

/-! ## A command is a reply and its delivery -/

def input (s : Session) (p : Position) : Input :=
  if p.isSingle then .source s.streams.source else .upstream s.streams.pipe.input

def setInput (s : Session) : Input → Session
  | .source source => s.setStreams { s.streams with source }
  | .upstream data => s.setPipe { s.streams.pipe with input := data }

@[simp] theorem setInput_input (s : Session) (p : Position) : s.setInput (s.input p) = s := by
  unfold input
  split <;> rfl

@[simp] theorem setInput_directory (s : Session) (i : Input) : (s.setInput i).directory = s.directory := by
  cases i <;> rfl

@[simp] theorem setInput_sink (s : Session) (i : Input) : (s.setInput i).streams.sink = s.streams.sink := by
  cases i <;> rfl

@[simp] theorem setInput_output (s : Session) (i : Input) :
    (s.setInput i).streams.pipe.output = s.streams.pipe.output := by
  cases i <;> rfl

theorem readBytes_eq (s : Session) (p : Position) :
    (s.streams.readBytes p).1 = (s.input p).readAll.1 ∧
      s.setStreams (s.streams.readBytes p).2 = s.setInput (s.input p).readAll.2 := by
  unfold Streams.readBytes input
  split <;> exact ⟨rfl, rfl⟩

theorem runBuiltin_eq (s : Session) (p : Position) (b : Builtin.Behaviour) :
    s.runBuiltin p b =
      (s.setInput (b.answer (s.input p)).2).deliver p (b.answer (s.input p)).1.output
        (b.answer (s.input p)).1.code := by
  cases b with
  | prints reply => simp [runBuiltin, Builtin.Behaviour.answer]
  | reads reply =>
    obtain ⟨hdata, hleft⟩ := readBytes_eq s p
    simp only [runBuiltin, Builtin.Behaviour.answer, ← hdata, ← hleft]
    split <;> rename_i heq <;> simp [heq]

theorem programInput_eq (s : Session) (p : Position) :
    s.programInput p = ((s.input p).handOver.1, s.setInput (s.input p).handOver.2) := by
  obtain ⟨hdata, hleft⟩ := readBytes_eq s p
  unfold programInput Streams.sharesSource
  cases hp : p.isSingle with
  | false =>
    simp only [Bool.and_false, Bool.false_eq_true, if_false, hdata, hleft]
    simp [input, hp, Input.handOver]
  | true =>
    cases hs : s.streams.source.shared with
    | false =>
      simp only [Bool.and_true, Bool.false_eq_true, if_false, hdata, hleft]
      simp [input, hp, Input.handOver, hs]
    | true => simp [input, hp, Input.handOver, hs]; rfl

theorem afterProgram_eq (s : Session) (p : Position) (n : Nat) :
    (s.setInput (s.input p).handOver.2).afterProgram p n =
      s.setInput ((s.input p).handOver.2.consume n) := by
  unfold afterProgram Streams.sharesSource input
  cases hp : p.isSingle with
  | false => simp [Input.handOver, Input.readAll, Input.consume]
  | true =>
    cases hs : s.streams.source.shared with
    | false => simp [Input.handOver, Input.readAll, Input.consume, Source.readAll, setInput, setStreams, hs]; split <;> rfl
    | true => simp [Input.handOver, Input.consume, setInput, setStreams, hs]

theorem runProgram_eq (s : Session) (m : Machine) (p : Position) (program : Text) (arguments : List Text) :
    s.runProgram m p program arguments =
      match programReply m s.directory program arguments (s.input p) with
      | (.ok reply, rest) => (s.setInput rest).deliver p reply.output reply.code
      | (.error e, rest) => (.error e, s.setInput rest) := by
  simp only [runProgram, programInput_eq, programReply]
  rcases hi : (s.input p).handOver with ⟨cause | data, rest⟩
  · rfl
  · simp only [setInput_directory]
    cases m.start { program, arguments, directory := s.directory, input := data } with
    | none => rfl
    | some outcome =>
      have := afterProgram_eq s p outcome.consumed
      rw [hi] at this
      simp only [this]

/-- Running a command is its reply to what it can read, and then the delivery of that reply. -/
theorem runAt_eq (s : Session) (m : Machine) (p : Position) (name : Text) (arguments : List Text) :
    s.runAt m p name arguments =
      match Command.reply m s.directory name arguments (s.input p) with
      | (.ok reply, rest) => (s.setInput rest).deliver p reply.output reply.code
      | (.error e, rest) => (.error e, s.setInput rest) := by
  unfold runAt Command.reply
  cases Builtin.find? ⟨m, s.directory⟩ name with
  | some behaviour => exact runBuiltin_eq s p (behaviour arguments)
  | none =>
    cases Lookup.find? m name with
    | some program => exact runProgram_eq s m p program arguments
    | none => simp

/-! ## A stage is its effect -/

/-- The session with the variables that a stage leaves, and what it leaves to read. -/
def after (s : Session) (e : Effect) : Session := { s.setInput e.rest with vars := e.vars }

theorem after_of_vars {s : Session} {e : Effect} (h : e.vars = s.vars) : s.after e = s.setInput e.rest := by
  unfold after
  rw [h]
  cases e.rest <;> rfl

def setOutput (s : Session) (output : Bytes) : Session := s.setPipe { s.streams.pipe with output }

def setSink (s : Session) (sink : Sink) : Session := s.setStreams { s.streams with sink }

theorem deliver_inner (s : Session) {p : Position} (hp : p.isLast = false) (h : s.streams.pipe.output = [])
    (output : Bytes) (code : Int) : s.deliver p output code = (.ok code, s.setOutput output) := by
  simp [deliver, Streams.flush, hp, Streams.append, Pipe.append, h, setOutput, setPipe, setStreams]

theorem deliver_last (s : Session) {p : Position} (hp : p.isLast = true) (h : s.streams.pipe.output = [])
    (output : Bytes) (code : Int) :
    s.deliver p output code =
      match s.streams.sink.write output with
      | (.ok (), sink) => (.ok code, s.setSink sink)
      | (.error cause, sink) => (.error (.command cause), (s.setOutput output).setSink sink) := by
  simp only [deliver, Streams.flush, hp, if_true, Streams.append, Pipe.append, h, List.nil_append, Pipe.flush]
  rcases s.streams.sink.write output with ⟨_ | _, sink⟩
  · rfl
  · simp only [setSink, setStreams, ← h]

end Session

@[simp] theorem Sink.write_nil (sink : Sink) : sink.write [] = (.ok (), sink) := by
  rcases sink with ⟨_ | room, written⟩ <;> simp [Sink.write]

namespace Session

theorem setOutput_nil {s : Session} (h : s.streams.pipe.output = []) : s.setOutput [] = s := by
  simp [setOutput, setPipe, setStreams, ← h]

/-- A stage before the last one leaves its bytes in the pipe. -/
theorem perform_inner (s : Session) (m : Machine) {p : Position} (hp : p.isLast = false)
    (h : s.streams.pipe.output = []) (c : Command) {e : Effect}
    (he : c.effect m s.directory s.vars (s.input p) = e) :
    s.perform m p c = (e.outcome, (s.after e).setOutput e.output) := by
  subst he
  match c with
  | .assign name value =>
    simp only [perform, Command.effect, after, setInput_input]
    rw [setOutput_nil (by exact h)]
  | .call [] =>
    simp only [perform, Command.effect]
    rw [after_of_vars rfl, setInput_input, setOutput_nil h]
  | .call (name :: arguments) =>
    simp only [perform, Command.effect, runAt_eq]
    rcases Command.reply m s.directory name arguments (s.input p) with ⟨e | reply, rest⟩
    · simp only [Effect.ofReply]
      rw [after_of_vars rfl, setOutput_nil (by simp [h])]
    · simp only [Effect.ofReply]
      rw [after_of_vars rfl, deliver_inner _ hp (by simp [h])]

/-- The last stage's bytes go to the sink. If it does not take them all, they stay in the pipe. -/
theorem perform_last (s : Session) (m : Machine) {p : Position} (hp : p.isLast = true)
    (h : s.streams.pipe.output = []) (c : Command) {e : Effect}
    (he : c.effect m s.directory s.vars (s.input p) = e) :
    s.perform m p c =
      match s.streams.sink.write e.output with
      | (.ok (), sink) => (e.outcome, (s.after e).setSink sink)
      | (.error cause, sink) => (.error (.command cause), ((s.after e).setOutput e.output).setSink sink) := by
  subst he
  match c with
  | .assign name value => simp [perform, Command.effect, after, setSink, setStreams]
  | .call [] => simp [perform, Command.effect, after, setSink, setStreams]
  | .call (name :: arguments) =>
    simp only [perform, Command.effect, runAt_eq]
    rcases Command.reply m s.directory name arguments (s.input p) with ⟨e | reply, rest⟩
    · simp only [Effect.ofReply, Sink.write_nil]
      rw [after_of_vars rfl]
      cases rest <;> rfl
    · simp only [Effect.ofReply]
      rw [after_of_vars rfl, deliver_last _ hp (by simp [h]), setInput_sink]
      rcases s.streams.sink.write reply.output with ⟨_ | _, sink⟩ <;> rfl

end Session

/-! ## Asking to end the session -/

namespace Builtin

theorem Reply.all_code_nonneg {replies : List Reply} (h : ∀ r ∈ replies, 0 ≤ r.code) :
    0 ≤ (Reply.all replies).code := by
  induction replies with
  | nil => exact Int.le_refl 0
  | cons r rest ih =>
    have hr := h r (List.mem_cons_self ..)
    have hrest := ih fun x hx => h x (List.mem_cons_of_mem _ hx)
    simp only [Reply.all, List.foldr_cons, Reply.andThen]
    split
    · exact hrest
    · exact hr

theorem Site.visitAll_code_nonneg (site : Site) (command : Text) (chunk : Text → Bytes → Bytes)
    (files : List Text) : 0 ≤ (site.visitAll command chunk files).code := by
  apply Reply.all_code_nonneg
  intro r hr
  obtain ⟨file, _, rfl⟩ := List.mem_map.mp hr
  unfold Site.visit
  split <;> simp

/-- Whatever it reads, the command does not fail below zero. -/
def Behaviour.Lasting (b : Behaviour) : Prop := ∀ input, 0 ≤ (b.answer input).1.code

theorem lasting_prints {reply : Reply} (h : 0 ≤ reply.code) : (Behaviour.prints reply).Lasting := fun _ => h

theorem lasting_reads {reply : Bytes → Reply} (h : ∀ data, 0 ≤ (reply data).code) :
    (Behaviour.reads reply).Lasting := by
  intro input
  simp only [Behaviour.answer]
  split
  · exact h _
  · simp

theorem refusal_code_nonneg (r : Options.Refusal) : 0 ≤ r.code := by
  cases r <;> simp [Options.Refusal.code]

theorem lasting_interpret {α : Type} (g : Options.Grammar α) {behave : α → Behaviour}
    (h : ∀ a, (behave a).Lasting) (words : List Text) : (interpret g behave words).Lasting := by
  unfold interpret
  split
  · exact h _
  · exact lasting_prints (refusal_code_nonneg _)

theorem Cat.lasting (site : Site) (files : List Text) : (Cat.behaviour site files).Lasting := by
  unfold Cat.behaviour
  split
  · exact lasting_reads fun _ => Int.le_refl 0
  · exact lasting_prints (Site.visitAll_code_nonneg ..)

theorem Wc.lasting (site : Site) (files : List Text) : (Wc.behaviour site files).Lasting := by
  unfold Wc.behaviour
  split
  · exact lasting_reads fun _ => Int.le_refl 0
  · exact lasting_prints (Site.visitAll_code_nonneg ..)

theorem Grep.lasting (site : Site) (grep : Grep) : (grep.behaviour site).Lasting := by
  unfold Grep.behaviour
  split
  · exact lasting_prints (by simp)
  · split
    · exact lasting_reads fun _ => Int.le_refl 0
    · exact lasting_prints (Site.visitAll_code_nonneg ..)

/-- No built-in command but `exit` asks to end the session. -/
theorem find?_lasting {site : Site} {name : Text} {b : List Text → Behaviour}
    (h : find? site name = some b) (hname : name ≠ Exit.name) (arguments : List Text) :
    (b arguments).Lasting := by
  unfold find? at h
  repeat' split at h
  · cases h; exact lasting_interpret _ (fun _ => lasting_prints (Int.le_refl 0)) _
  · cases h; exact lasting_interpret _ (fun _ => lasting_prints (Int.le_refl 0)) _
  · cases h; exact lasting_interpret _ (Cat.lasting site) _
  · cases h; exact lasting_interpret _ (Wc.lasting site) _
  · cases h; exact lasting_interpret _ (fun draft => Grep.lasting site _) _
  · cases h

end Builtin

theorem Ending.code_nonneg (e : Ending) : 0 ≤ e.code := by
  cases e <;> simp only [Ending.code] <;> omega

theorem programReply_code_nonneg {m : Machine} {directory program : Text} {arguments : List Text}
    {input rest : Input} {reply : Builtin.Reply}
    (h : programReply m directory program arguments input = (.ok reply, rest)) : 0 ≤ reply.code := by
  unfold programReply at h
  repeat' split at h
  · cases h
  · cases h
  · cases h; exact Ending.code_nonneg _

theorem Signal.ofCode_of_nonneg {code : Int} (h : 0 ≤ code) : Signal.ofCode code = .goOn := by
  unfold Signal.ofCode Signal.exitCode
  rw [if_neg (by omega)]

/-- No command but `exit` asks to end the session. -/
theorem reply_code_nonneg {m : Machine} {directory name : Text} {arguments : List Text} {input rest : Input}
    {reply : Builtin.Reply} (h : Command.reply m directory name arguments input = (.ok reply, rest))
    (hname : name ≠ Builtin.Exit.name) : 0 ≤ reply.code := by
  unfold Command.reply at h
  split at h
  · rename_i behaviour hb
    cases h
    exact Builtin.find?_lasting hb hname arguments input
  · split at h
    · exact programReply_code_nonneg h
    · cases h

/-- A command that gives no reply is not known, or it could not be carried through. -/
theorem Command.reply_error_cases {m : Machine} {directory name : Text} {arguments : List Text} {input rest : Input}
    {e : LineError} (h : Command.reply m directory name arguments input = (.error e, rest)) :
    e = .unknownCommand name ∨ ∃ cause, e = .command cause := by
  unfold Command.reply at h
  split at h
  · cases h
  · split at h
    · unfold programReply at h
      repeat' split at h
      · cases h; exact Or.inr ⟨_, rfl⟩
      · cases h; exact Or.inr ⟨_, rfl⟩
      · cases h
    · cases h; exact Or.inl rfl

theorem exit_silent {m : Machine} {directory : Text} {arguments : List Text} {input rest : Input}
    {reply : Builtin.Reply}
    (h : Command.reply m directory Builtin.Exit.name arguments input = (.ok reply, rest))
    (hcode : Signal.ofCode reply.code = .exit) : reply.output = [] := by
  have hb : Builtin.find? ⟨m, directory⟩ Builtin.Exit.name =
      some (Builtin.interpret Builtin.Exit.grammar fun _ => Builtin.Exit.behaviour) := rfl
  simp only [Command.reply, hb, Builtin.interpret] at h
  split at h
  · cases h; rfl
  · rename_i refusal _
    cases h
    have := Signal.ofCode_of_nonneg (Builtin.refusal_code_nonneg refusal)
    exact absurd (hcode.symm.trans this) (by decide)

/-- A command that asks to end the session has written nothing. -/
theorem reply_silent {m : Machine} {directory name : Text} {arguments : List Text} {input rest : Input}
    {reply : Builtin.Reply} (h : Command.reply m directory name arguments input = (.ok reply, rest))
    (hcode : Signal.ofCode reply.code = .exit) : reply.output = [] := by
  by_cases hname : name = Builtin.Exit.name
  · subst hname
    exact exit_silent h hcode
  · have hgo := Signal.ofCode_of_nonneg (reply_code_nonneg h hname)
    exact absurd (hcode.symm.trans hgo) (by decide)

/-- A stage after which the line does not go on has written nothing. -/
theorem effect_silent {m : Machine} {directory : Text} {p : Position} {vars : Variables} {input : Input}
    {stage : Stage} (h : (stage.effect m directory p vars input).outcome ≠ .ok .goOn) :
    (stage.effect m directory p vars input).output = [] := by
  unfold Stage.effect at h ⊢
  split
  · rfl
  · rename_i hempty
    rw [if_neg hempty] at h
    match hc : Command.ofStage stage with
    | .assign name value => rfl
    | .call [] => rfl
    | .call (name :: arguments) =>
      simp only [hc, Command.effect] at h ⊢
      rcases hr : Command.reply m directory name arguments input with ⟨e | reply, rest⟩
      · rfl
      · simp only [hr, Effect.ofReply, ne_eq, Except.ok.injEq] at h ⊢
        refine reply_silent hr ?_
        cases hs : Signal.ofCode reply.code with
        | goOn => exact absurd hs h
        | exit => rfl

theorem effect_rest_upstream (m : Machine) (directory : Text) (p : Position) (vars : Variables) (data : Bytes)
    (stage : Stage) : ∃ left, (stage.effect m directory p vars (.upstream data)).rest = .upstream left := by
  unfold Stage.effect
  split
  · exact ⟨data, rfl⟩
  · match Command.ofStage stage with
    | .assign name value => exact ⟨data, rfl⟩
    | .call [] => exact ⟨data, rfl⟩
    | .call (name :: arguments) =>
      simp only [Command.effect, Command.reply]
      cases Builtin.find? ⟨m, directory⟩ name with
      | some behaviour =>
        simp only [Effect.ofReply]
        cases behaviour arguments with
        | prints reply => exact ⟨data, rfl⟩
        | reads reply => exact ⟨[], rfl⟩
      | none =>
        cases Lookup.find? m name with
        | none => exact ⟨data, rfl⟩
        | some program =>
          simp only [programReply, Input.handOver, Input.readAll]
          cases m.start { program, arguments, directory, input := data } with
          | none => exact ⟨[], rfl⟩
          | some outcome => exact ⟨[], rfl⟩

end LineShell
