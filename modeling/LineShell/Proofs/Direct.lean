import LineShell.Host
import LineShell.Proofs.History
import LineShell.Proofs.Passes

/-!
The two ways to a command. A direct run takes its name and its arguments as they are; a chain of one
stage finds them in the words of the stage. If these words are quoted, whatever their texts are, both
do the same, up to what a failing run leaves in the pipe.

  - `ofStage_quoted`: quoted words with spaces between ask for exactly these texts, empty ones too.
  - `chain_of_call`: a stage that is alone and calls a command replies as a direct run does.
  - `chain_eq_run`: the chain says and does what the run does.
-/

namespace LineShell

/-! ## A stage of quoted words -/

/-- The stage of quoted words with unquoted spaces between. -/
def Stage.quoted (argv : List Text) : Stage := ⟨(argv.map Word.quoted).intersperse (.bare [' '])⟩

namespace Command

theorem arguments_quoted (argv : List Text) : arguments (Stage.quoted argv).words = argv := by
  match argv with
  | [] => rfl
  | [text] => rfl
  | text :: next :: argv =>
    have hrest := arguments_quoted (next :: argv)
    show text :: arguments (Stage.quoted (next :: argv)).words = _
    rw [hrest]

theorem getLast?_quoted (argv : List Text) : ∀ w ∈ (Stage.quoted argv).words.getLast?, w.isBlank = false := by
  match argv with
  | [] => nofun
  | [text] =>
    intro w hw
    cases hw
    rfl
  | text :: next :: argv =>
    have hrest := getLast?_quoted (next :: argv)
    have hwords : (Stage.quoted (text :: next :: argv)).words =
        .quoted text :: .bare [' '] :: (Stage.quoted (next :: argv)).words := rfl
    obtain ⟨w, ws, hcons⟩ : ∃ w ws, (Stage.quoted (next :: argv)).words = w :: ws := by
      cases argv with
      | nil => exact ⟨_, _, rfl⟩
      | cons _ _ => exact ⟨_, _, rfl⟩
    rw [hwords, hcons, List.getLast?_cons_cons, List.getLast?_cons_cons, ← hcons]
    exact hrest

/-- Quoted words with spaces between ask for exactly these texts, whatever they are. -/
theorem ofStage_quoted (name : Text) (arguments : List Text) :
    (Stage.quoted (name :: arguments)).isEmpty = false ∧
      ofStage (Stage.quoted (name :: arguments)) = .call (name :: arguments) := by
  obtain ⟨ws, hcons⟩ : ∃ ws, (Stage.quoted (name :: arguments)).words = .quoted name :: ws := by
    cases arguments with
    | nil => exact ⟨_, rfl⟩
    | cons _ _ => exact ⟨_, rfl⟩
  have hlast := getLast?_quoted (name :: arguments)
  have hargv := arguments_quoted (name :: arguments)
  rw [hcons] at hlast hargv
  have htrim : trim ([] ++ (.quoted name :: ws ++ [])) = .quoted name :: ws :=
    trim_padded (by simp) (by simp) (List.cons_ne_nil _ _) (by simp [Word.isBlank]) hlast
  rw [List.nil_append, List.append_nil] at htrim
  refine ⟨?_, ?_⟩
  · rw [Stage.isEmpty, hcons]
    rfl
  · rw [ofStage, ofWords, hcons, htrim, ← hargv]

end Command

/-! ## A stage that is alone -/

namespace Session

variable {s : Session} (m : Machine)

/-- The fold of a stage that is alone and calls a command is the reply of that command to the source. -/
theorem ofStages_call {stage : Stage} {name : Text} {arguments : List Text} (hempty : stage.isEmpty = false)
    (hcall : Command.ofStage stage = .call (name :: arguments)) :
    Flow.ofStages m s [stage] =
      let e := Effect.ofReply s.vars (Command.reply m s.directory name arguments (.source s.streams.source))
      { outcome := e.outcome, vars := e.vars, source := Flow.sourceAfter s.streams.source e.rest,
        bytes := e.output } := by
  have heffect : stage.effect m s.directory ⟨0, 1⟩ s.vars (.source s.streams.source) =
      Effect.ofReply s.vars (Command.reply m s.directory name arguments (.source s.streams.source)) := by
    rw [Stage.effect, if_neg (by simp [hempty]), hcall]
    rfl
  rw [← heffect]
  rfl

/-- A stage that is alone and calls a command replies as a direct run does, but leaves nothing in the pipe. -/
theorem chain_of_call (hpipe : s.streams.pipe = {}) {stage : Stage} {name : Text} {arguments : List Text}
    (hempty : stage.isEmpty = false) (hcall : Command.ofStage stage = .call (name :: arguments)) :
    s.chain m [stage] = ((s.run m name arguments).1.map .ofCode, (s.run m name arguments).2.setPipe {}) := by
  obtain ⟨left, hleft, -⟩ := reply_source m s.directory name arguments s.streams.source
  have houtput : s.streams.pipe.output = [] := by rw [hpipe]
  rw [chain_eq_finish s m (by simp), ofStages_call m hempty hcall, run_eq]
  rcases hr : Command.reply m s.directory name arguments (.source s.streams.source) with ⟨e | reply, rest⟩
  · obtain rfl : rest = .source left := by rw [← hleft, hr]
    rfl
  · obtain rfl : rest = .source left := by rw [← hleft, hr]
    simp only [Effect.ofReply, deliver_flush _ (show Position.alone.isLast = true from rfl), setInput_sink,
      setInput_output, houtput, List.nil_append]
    cases hsignal : Signal.ofCode reply.code with
    | goOn =>
      simp only [Flow.finish]
      rcases s.streams.sink.write reply.output with ⟨cause | _, sink⟩
      · rfl
      · simp only [Except.map, hsignal]
        rfl
    | exit =>
      -- It has written nothing, so the sink cannot stop it.
      have hsilent := reply_silent hr hsignal
      simp only [Flow.finish, hsilent, Sink.write_nil, Except.map, hsignal]
      rfl

/-- A chain of one stage of quoted words is the direct run of its command. The bytes at the sink, the
variables, the directory and the source are the same, and so is an error; a code is told as its signal.
Only a failing run leaves more in the pipe. -/
theorem chain_eq_run (s : Session) (hpipe : s.streams.pipe = {}) (m : Machine) (name : Text) (arguments : List Text) :
    let chained := s.chain m [Stage.quoted (name :: arguments)]
    let ran := s.run m name arguments
    chained = (ran.1.map .ofCode, ran.2.setPipe {}) ∧ ∀ code, ran.1 = .ok code → chained.2 = ran.2 := by
  intro chained ran
  obtain ⟨hempty, hcall⟩ := Command.ofStage_quoted name arguments
  have hchain : chained = (ran.1.map .ofCode, ran.2.setPipe {}) := chain_of_call m hpipe hempty hcall
  refine ⟨hchain, fun code hcode => ?_⟩
  have hleft : ran.2.streams.pipe = {} := by
    have hrun := pipe_run s m name arguments
    rw [show (s.run m name arguments).1 = .ok code from hcode, hpipe] at hrun
    exact hrun
  rw [hchain, ← hleft]
  rfl

def strapped : Session :=
  { streams := { source := { rest := [120], failure := some Sink.full }, sink := { room := some 4 } } }

/-- `echo` with an empty argument and one that looks like an option prints all four bytes. `cat` cannot
read, and has no room to say so. -/
theorem chain_eq_run_strapped :
    let m := ({} : Host).machine
    strapped.streams.pipe = {} ∧
      (strapped.chain m [Stage.quoted ["echo".toList, [], "-n".toList]]).1 = .ok .goOn ∧
      (strapped.chain m [Stage.quoted ["echo".toList, [], "-n".toList]]).2 =
        (strapped.run m "echo".toList [[], "-n".toList]).2 ∧
      (strapped.chain m [Stage.quoted ["cat".toList]]).1 = .error (.command Sink.full) ∧
      (strapped.chain m [Stage.quoted ["cat".toList]]).2 = (strapped.run m "cat".toList []).2.setPipe {} := by
  intro m
  obtain ⟨hecho, hsame⟩ := chain_eq_run strapped rfl m "echo".toList [[], "-n".toList]
  obtain ⟨hcat, -⟩ := chain_eq_run strapped rfl m "cat".toList []
  have hcode : (strapped.run m "echo".toList [[], "-n".toList]).1 = .ok 0 := rfl
  have hfull : (strapped.run m "cat".toList []).1 = .error (.command Sink.full) := rfl
  refine ⟨rfl, ?_, hsame 0 hcode, ?_, by rw [hcat]⟩
  · rw [hecho, hcode]
    rfl
  · rw [hcat, hfull]
    rfl

end Session

end LineShell
