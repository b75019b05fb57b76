import LineShell.Host
import LineShell.Proofs.Progress

/-!
Who may fail a line, and who may end the session. A built-in command turns all that goes wrong into
text and a code; only the sink can make it fail. The code that ends a session is `exit`'s alone.

  - `Command.reply_of_builtin`: a built-in command always replies.
  - `signal_reply` / `effect_exit_iff`: only `exit` asks to end the session, and only if it takes its
    arguments.
  - `effect_of_inside`: a stage that stays inside the shell does not fail.
  - `endings_exact`: what follows for commands and for chains.
-/

namespace LineShell

namespace Builtin

def names : List Text := [Echo.name, Pwd.name, Exit.name, Cat.name, Wc.name, Grep.name]

theorem exists_find? {name : Text} (h : name ∈ names) (site : Site) : ∃ behaviour, find? site name = some behaviour := by
  simp only [names, List.mem_cons, List.not_mem_nil, or_false] at h
  rcases h with rfl | rfl | rfl | rfl | rfl | rfl
  all_goals exact ⟨_, rfl⟩

theorem Exit.mem_names : Exit.name ∈ names := by decide

def Exit.Accepts (arguments : List Text) : Prop := ∃ words, Exit.grammar.parse arguments = .ok words

end Builtin

namespace Command

/-- A command that does not leave the shell: it binds a variable, does nothing, or is built in. -/
def Inside : Command → Prop
  | .assign _ _ => True
  | .call [] => True
  | .call (name :: _) => name ∈ Builtin.names

instance : DecidablePred Inside
  | .assign _ _ => isTrue trivial
  | .call [] => isTrue trivial
  | .call (name :: _) => inferInstanceAs (Decidable (name ∈ Builtin.names))

variable {m : Machine} {directory name : Text} {arguments : List Text} {input rest : Input} {reply : Builtin.Reply}

theorem reply_of_builtin (h : name ∈ Builtin.names) (m : Machine) (directory : Text) (arguments : List Text)
    (input : Input) : ∃ reply rest, Command.reply m directory name arguments input = (.ok reply, rest) := by
  obtain ⟨behaviour, hfind⟩ := Builtin.exists_find? h ⟨m, directory⟩
  simp only [Command.reply, hfind]
  exact ⟨_, _, rfl⟩

theorem reply_exit (h : Command.reply m directory Builtin.Exit.name arguments input = (.ok reply, rest)) :
    Signal.ofCode reply.code = .exit ↔ Builtin.Exit.Accepts arguments := by
  have hfind : Builtin.find? ⟨m, directory⟩ Builtin.Exit.name =
      some (Builtin.interpret Builtin.Exit.grammar fun _ => Builtin.Exit.behaviour) := rfl
  simp only [Command.reply, hfind, Builtin.interpret] at h
  unfold Builtin.Exit.Accepts
  cases hparse : Builtin.Exit.grammar.parse arguments with
  | ok words =>
    rw [hparse] at h
    cases h
    exact iff_of_true rfl ⟨words, rfl⟩
  | error refusal =>
    rw [hparse] at h
    cases h
    have hcode := Signal.ofCode_of_nonneg (Builtin.refusal_code_nonneg refusal)
    refine iff_of_false (fun hexit => ?_) ?_
    · cases hcode.symm.trans hexit
    · rintro ⟨words, hwords⟩
      cases hwords

/-- Only `exit` asks to end the session. -/
theorem signal_reply (h : Command.reply m directory name arguments input = (.ok reply, rest)) :
    Signal.ofCode reply.code = .exit ↔ name = Builtin.Exit.name ∧ Builtin.Exit.Accepts arguments := by
  by_cases hname : name = Builtin.Exit.name
  · subst hname
    rw [reply_exit h]
    exact (and_iff_right rfl).symm
  · rw [Signal.ofCode_of_nonneg (reply_code_nonneg h hname)]
    exact iff_of_false nofun fun hexit => hname hexit.1

theorem ofStage_of_isEmpty {stage : Stage} (h : stage.isEmpty = true) : ofStage stage = .call [] := by
  have hnone : (stage.words ++ []).dropWhile Word.isBlank = [] :=
    List.dropWhile_append_of_pos (List.all_eq_true.mp h)
  rw [List.append_nil] at hnone
  have htrim : trim stage.words = [] := by rw [trim, hnone]; rfl
  rw [ofStage, ofWords, htrim]
  rfl

end Command

/-! ## Stages -/

namespace Stage

variable {m : Machine} {directory : Text} {p : Position} {vars : Variables} {input : Input} {stage : Stage}

theorem effect_of_nonempty (h : stage.isEmpty = false) :
    stage.effect m directory p vars input = (Command.ofStage stage).effect m directory vars input := by
  rw [effect, h]
  rfl

theorem isEmpty_of_call {name : Text} {arguments : List Text} (h : Command.ofStage stage = .call (name :: arguments)) :
    stage.isEmpty = false := by
  cases hempty : stage.isEmpty with
  | false => rfl
  | true => cases (Command.ofStage_of_isEmpty hempty).symm.trans h

/-- A call of a built-in command gives the signal of its reply. -/
theorem outcome_of_builtin {name : Text} {arguments : List Text}
    (h : Command.ofStage stage = .call (name :: arguments)) (hname : name ∈ Builtin.names) :
    ∃ reply rest, Command.reply m directory name arguments input = (.ok reply, rest) ∧
      (stage.effect m directory p vars input).outcome = .ok (.ofCode reply.code) := by
  obtain ⟨reply, rest, hreply⟩ := Command.reply_of_builtin hname m directory arguments input
  refine ⟨reply, rest, hreply, ?_⟩
  rw [effect_of_nonempty (isEmpty_of_call h), h, Command.effect, hreply]
  rfl

/-- A stage that stays inside the shell does not fail. -/
theorem effect_of_inside (hempty : stage.isEmpty = false) (h : (Command.ofStage stage).Inside) :
    ∃ signal, (stage.effect m directory p vars input).outcome = .ok signal := by
  match hc : Command.ofStage stage with
  | .assign name value => exact ⟨.goOn, by rw [effect_of_nonempty hempty, hc]; rfl⟩
  | .call [] => exact ⟨.goOn, by rw [effect_of_nonempty hempty, hc]; rfl⟩
  | .call (name :: arguments) =>
    rw [hc] at h
    obtain ⟨reply, _, _, houtcome⟩ := outcome_of_builtin hc h
    exact ⟨_, houtcome⟩

theorem effect_exit_iff :
    (stage.effect m directory p vars input).outcome = .ok .exit ↔
      ∃ arguments, Command.ofStage stage = .call (Builtin.Exit.name :: arguments) ∧
        Builtin.Exit.Accepts arguments := by
  constructor
  · intro h
    cases hempty : stage.isEmpty with
    | true =>
      rw [effect, if_pos hempty] at h
      cases h
    | false =>
      rw [effect_of_nonempty hempty] at h
      cases hc : Command.ofStage stage with
      | assign name value =>
        rw [hc] at h
        cases h
      | call argv =>
        rw [hc] at h
        cases argv with
        | nil => cases h
        | cons name arguments =>
          rw [Command.effect] at h
          rcases hreply : Command.reply m directory name arguments input with ⟨e | reply, rest⟩
          · rw [hreply] at h
            cases h
          · rw [hreply] at h
            obtain ⟨rfl, haccepts⟩ := (Command.signal_reply hreply).mp (Except.ok.inj h)
            exact ⟨arguments, rfl, haccepts⟩
  · rintro ⟨arguments, hcall, haccepts⟩
    obtain ⟨reply, rest, hreply, houtcome⟩ := outcome_of_builtin hcall Builtin.Exit.mem_names
    rw [houtcome, (Command.reply_exit hreply).mpr haccepts]

end Stage

/-! ## Chains -/

namespace Session

variable {s : Session} {m : Machine} {stages : List Stage}

theorem code_runAt {p : Position} {name : Text} {arguments : List Text} {code : Int}
    (h : (s.runAt m p name arguments).1 = .ok code) :
    ∃ reply rest, Command.reply m s.directory name arguments (s.input p) = (.ok reply, rest) ∧ reply.code = code := by
  rw [runAt_eq] at h
  rcases hreply : Command.reply m s.directory name arguments (s.input p) with ⟨e | reply, rest⟩
  · rw [hreply] at h
    cases h
  · rw [hreply] at h
    refine ⟨reply, rest, rfl, ?_⟩
    simp only [deliver] at h
    split at h
    · exact Except.ok.inj h
    · cases h

theorem chain_exit_iff :
    (s.chain m stages).1 = .ok .exit ↔
      ∃ index stage arguments, stages[index]? = some stage ∧ index ≤ s.completed m stages ∧
        Command.ofStage stage = .call (Builtin.Exit.name :: arguments) ∧ Builtin.Exit.Accepts arguments := by
  have hexit : (.ok .exit : Except LineError Signal) ≠ .ok .goOn := nofun
  rw [chain_ends_iff hexit nofun nofun]
  simp only [Flow.effectAt, Stage.effect_exit_iff]
  constructor
  · rintro ⟨index, stage, hstage, hreached, arguments, hcall⟩
    exact ⟨index, stage, arguments, hstage, hreached, hcall⟩
  · rintro ⟨index, stage, arguments, hstage, hreached, hcall⟩
    exact ⟨index, stage, hstage, hreached, arguments, hcall⟩

/-- A chain that fails at a stage which stays inside the shell has a full sink to blame, and the stage
is the last one. -/
theorem chain_error_inside {e : LineError} {stage : Stage} (h : (s.chain m stages).1 = .error e)
    (hstage : stages[s.completed m stages]? = some stage) (hempty : stage.isEmpty = false)
    (hinside : (Command.ofStage stage).Inside) :
    s.completed m stages + 1 = stages.length ∧
      ∃ cause, e = .command cause ∧ (s.streams.sink.write (Flow.ofStages m s stages).bytes).1 = .error cause := by
  have hne : stages ≠ [] := by
    rintro rfl
    cases hstage
  rcases chain_stop_cases hne (by rw [h]; nofun) with ⟨other, hother, houtcome⟩ | ⟨hlast, cause, hcause, hwrite⟩
  · obtain rfl : stage = other := Option.some.inj (hstage.symm.trans hother)
    obtain ⟨signal, hsignal⟩ := Stage.effect_of_inside hempty hinside
    rw [Flow.effectAt, hsignal, h] at houtcome
    cases houtcome
  · exact ⟨hlast, cause, Except.error.inj (h.symm.trans hcause), hwrite⟩

/-- A chain that stays inside the shell succeeds if the sink takes what it prints. -/
theorem chain_of_inside (hinside : ∀ stage ∈ stages, stage.isEmpty = false ∧ (Command.ofStage stage).Inside)
    (hwrite : (s.streams.sink.write (Flow.ofStages m s stages).bytes).1 = .ok ()) :
    ∃ signal, (s.chain m stages).1 = .ok signal := by
  cases h : (s.chain m stages).1 with
  | ok signal => exact ⟨signal, rfl⟩
  | error e =>
    by_cases hne : stages = []
    · subst hne
      have hstart : (Flow.ofStages m s []).bytes = s.streams.pipe.output := rfl
      rw [chain_nil, ← hstart] at h
      split at h
      · cases h
      · rename_i heq
        rw [heq] at hwrite
        cases hwrite
    · rcases chain_stop_cases hne (by rw [h]; nofun) with ⟨stage, hstage, houtcome⟩ | ⟨_, cause, _, hfull⟩
      · obtain ⟨hempty, hin⟩ := hinside stage (List.mem_of_getElem? hstage)
        obtain ⟨signal, hsignal⟩ := Stage.effect_of_inside hempty hin
        rw [Flow.effectAt, hsignal, h] at houtcome
        cases houtcome
      · cases hwrite.symm.trans hfull

/-- Who may fail a line, and who may end the session. A chain ends the session exactly when it reaches
a call of `exit` that takes its arguments: all stages before it have gone on. No other command gives
the code for that, and no program's ending has it. Where a chain fails at a built-in command, the
command is the last of the chain and the sink has not taken what it wrote. So a chain of assignments,
empty calls and built-in commands succeeds if the sink takes what it prints. -/
theorem endings_exact (s : Session) (m : Machine) :
    (∀ stages, (s.chain m stages).1 = .ok .exit ↔
      ∃ index stage arguments, stages[index]? = some stage ∧ index ≤ s.completed m stages ∧
        Command.ofStage stage = .call (Builtin.Exit.name :: arguments) ∧ Builtin.Exit.Accepts arguments) ∧
      (∀ p name arguments code, (s.runAt m p name arguments).1 = .ok code →
        (Signal.ofCode code = .exit ↔ name = Builtin.Exit.name ∧ Builtin.Exit.Accepts arguments)) ∧
      (∀ ending : Ending, Signal.ofCode ending.code = .goOn) ∧
      (∀ stages e stage name arguments, (s.chain m stages).1 = .error e →
        stages[s.completed m stages]? = some stage → Command.ofStage stage = .call (name :: arguments) →
        name ∈ Builtin.names →
          s.completed m stages + 1 = stages.length ∧
            ∃ cause, e = .command cause ∧
              (s.streams.sink.write (Flow.ofStages m s stages).bytes).1 = .error cause) ∧
      ∀ stages, (∀ stage ∈ stages, stage.isEmpty = false ∧ (Command.ofStage stage).Inside) →
        (s.streams.sink.write (Flow.ofStages m s stages).bytes).1 = .ok () →
          ∃ signal, (s.chain m stages).1 = .ok signal := by
  refine ⟨fun stages => chain_exit_iff, fun p name arguments code h => ?_,
    fun ending => Signal.ofCode_of_nonneg ending.code_nonneg,
    fun stages e stage name arguments h hstage hcall hname => ?_, fun stages => chain_of_inside⟩
  · obtain ⟨reply, rest, hreply, rfl⟩ := code_runAt h
    exact Command.signal_reply hreply
  · refine chain_error_inside h hstage (Stage.isEmpty_of_call hcall) ?_
    rw [hcall]
    exact hname

def strained : Session :=
  { streams := { source := { failure := some "closed".toList }, sink := { room := some 0 } } }

def leaving : List Stage :=
  [⟨[.bare "x".toList, .bare ['='], .bare ['1']]⟩, ⟨[.bare "exit".toList, .bare [' '], .bare ['3']]⟩, ⟨[]⟩]

/-- A file that is not there, an empty value, a pattern that is refused, and `exit` asked for its usage
text. -/
def complaining : List Stage :=
  [⟨[.bare "cat".toList, .bare [' '], .bare ['x']]⟩, ⟨[.expansion []]⟩,
    ⟨[.bare "grep".toList, .bare [' '], .quoted ['(']]⟩, ⟨[.bare "exit".toList, .bare [' '], .bare "help".toList]⟩]

/-- The first chain ends the session before its empty stage. Of the second one only the last stage
fails, and only for want of room. -/
theorem endings_exact_strained :
    let m := ({} : Host).machine
    (strained.chain m leaving).1 = .ok .exit ∧
      (strained.chain m complaining).1 = .error (.command Sink.full) ∧
      strained.completed m complaining + 1 = complaining.length ∧
      (∀ stage ∈ complaining, stage.isEmpty = false ∧ (Command.ofStage stage).Inside) ∧
      ∃ signal, ((strained.setSink {}).chain m complaining).1 = .ok signal := by
  intro m
  obtain ⟨hexit, -, -, hfails, -⟩ := endings_exact strained m
  obtain ⟨-, -, -, -, hsucceeds⟩ := endings_exact (strained.setSink {}) m
  have hfull : (strained.chain m complaining).1 = .error (.command Sink.full) := rfl
  have hthree : strained.completed m complaining = 3 := by decide +kernel
  have hinside : ∀ stage ∈ complaining, stage.isEmpty = false ∧ (Command.ofStage stage).Inside := by decide
  refine ⟨?_, hfull, ?_, hinside, hsucceeds complaining hinside rfl⟩
  · rw [hexit]
    exact ⟨1, _, [['3']], rfl, by decide +kernel, rfl, _, rfl⟩
  · exact (hfails complaining _ _ Builtin.Exit.name ["help".toList] hfull (by rw [hthree]; rfl) rfl (by decide)).1

end Session

end LineShell
