import LineShell.Proofs.Direct
import LineShell.Proofs.Endings
import LineShell.Proofs.Places

/-!
Stages that ask for a built-in command. How the arguments are spelled does not matter once they have been
read: such a stage does what the command does that they mean.

  - `Stage.Calls`: a stage calls a command whose arguments are read as something; `IsCat`, `IsWc` and
    `IsGrep` are the cases.
  - `Calls.behaves`: the effect of such a stage is the answer of the command to what there is to read.
  - `step_behaves` / `step_unread`: such a stage as a step of the fold.
  - `chain_alone` / `chain_pair`: what a line of one or two of them prints.
-/

namespace LineShell

open Builtin

/-- The stage calls a command whose arguments are read as `a`. -/
def Stage.Calls {α : Type} (stage : Stage) (name : Text) (parse : List Text → Except Options.Refusal α) (a : α) :
    Prop :=
  ∃ arguments, Command.ofStage stage = .call (name :: arguments) ∧ parse arguments = .ok a

namespace Stage

def IsCat (stage : Stage) (files : List Text) : Prop := stage.Calls Cat.name Cat.grammar.parse files

def IsWc (stage : Stage) (files : List Text) : Prop := stage.Calls Wc.name Wc.grammar.parse files

def IsGrep (stage : Stage) (grep : Grep) : Prop := stage.Calls Grep.name Grep.parse grep

end Stage

/-- What a command does as a stage after which the line goes on. -/
def Builtin.Behaviour.effect (b : Behaviour) (vars : Variables) (input : Input) : Effect :=
  { outcome := .ok .goOn, vars, output := (b.answer input).1.output, rest := (b.answer input).2 }

def Builtin.Behaviour.filter (b : Behaviour) (data : Bytes) : Bytes := (b.answer (.upstream data)).1.output

/-- The stage does at every place what the command does. -/
def Stage.Behaves (stage : Stage) (site : Site) (b : Behaviour) : Prop :=
  ∀ p vars input, stage.effect site.machine site.directory p vars input = b.effect vars input

variable {stage : Stage} {site : Site} {files : List Text} {b : Behaviour}

theorem Builtin.interpret_ok {α : Type} {g : Options.Grammar α} {behave : α → Behaviour} {words : List Text} {a : α}
    (h : g.parse words = .ok a) : interpret g behave words = behave a := by
  rw [interpret, h]

theorem Builtin.interpret_grep {words : List Text} {grep : Grep} (h : Grep.parse words = .ok grep) :
    interpret Grep.grammar (fun draft => (Grep.ofDraft draft).behaviour site) words = grep.behaviour site := by
  rw [Grep.parse] at h
  cases hdraft : Grep.grammar.parse words with
  | error refusal =>
    rw [hdraft] at h
    cases h
  | ok draft =>
    rw [hdraft] at h
    cases h
    exact interpret_ok hdraft

namespace Stage

theorem calls_quoted {α : Type} {parse : List Text → Except Options.Refusal α} {a : α} (name : Text)
    {arguments : List Text} (h : parse arguments = .ok a) : (quoted (name :: arguments)).Calls name parse a :=
  ⟨arguments, (Command.ofStage_quoted name arguments).2, h⟩

theorem Calls.behaves {α : Type} {name : Text} {parse : List Text → Except Options.Refusal α} {a : α}
    (h : stage.Calls name parse a) {behave : List Text → Behaviour} (hfind : find? site name = some behave)
    (hbehave : ∀ words, parse words = .ok a → behave words = b) (hlasting : b.Lasting) : stage.Behaves site b := by
  obtain ⟨arguments, hcall, hparse⟩ := h
  intro p vars input
  have hreply : Command.reply site.machine site.directory name arguments input =
      (.ok (b.answer input).1, (b.answer input).2) := by
    have hfind : find? ⟨site.machine, site.directory⟩ name = some behave := hfind
    simp only [Command.reply, hfind, hbehave arguments hparse]
  rw [effect_of_nonempty (isEmpty_of_call hcall), hcall, Command.effect, hreply, Effect.ofReply,
    Signal.ofCode_of_nonneg (hlasting input)]
  rfl

theorem IsCat.behaves (h : stage.IsCat files) (site : Site) : stage.Behaves site (Cat.behaviour site files) := by
  have hfind : find? site Cat.name = some (interpret Cat.grammar (Cat.behaviour site)) := rfl
  exact Calls.behaves h hfind (fun _ => interpret_ok) (Cat.lasting site files)

theorem IsWc.behaves (h : stage.IsWc files) (site : Site) : stage.Behaves site (Wc.behaviour site files) := by
  have hfind : find? site Wc.name = some (interpret Wc.grammar (Wc.behaviour site)) := rfl
  exact Calls.behaves h hfind (fun _ => interpret_ok) (Wc.lasting site files)

theorem IsGrep.behaves {grep : Grep} (h : stage.IsGrep grep) (site : Site) :
    stage.Behaves site (grep.behaviour site) := by
  have hfind : find? site Grep.name =
      some (interpret Grep.grammar fun draft => (Grep.ofDraft draft).behaviour site) := rfl
  exact Calls.behaves h hfind (fun _ => interpret_grep) (Grep.lasting site grep)

end Stage

/-! ## In a line -/

namespace Flow

variable {m : Machine} {directory : Text} {flow : Flow} {total index : Nat}

theorem sourceAfter_upstream (source : Source) (data : Bytes) :
    sourceAfter source (b.answer (.upstream data)).2 = source := by
  cases b <;> rfl

/-- Among several stages, the command makes its output of the bytes of the stage before. -/
theorem step_behaves (hb : stage.Behaves ⟨m, directory⟩ b) (htotal : total ≠ 1) (hgo : flow.outcome = .ok .goOn) :
    flow.step m directory total (stage, index) = { flow with bytes := b.filter flow.bytes } := by
  have heffect := hb ⟨index, total⟩ flow.vars (.upstream flow.bytes)
  simp only [step, hgo, input_several htotal, heffect, Behaviour.effect, sourceAfter_upstream]
  rfl

/-- A command that reads nothing prints the same at every place. -/
theorem step_unread {reply : Reply} (hb : stage.Behaves ⟨m, directory⟩ b)
    (hunread : ∀ input, b.answer input = (reply, input)) (hgo : flow.outcome = .ok .goOn) :
    flow.step m directory total (stage, index) = { flow with bytes := reply.output } := by
  have heffect := hb ⟨index, total⟩ flow.vars (flow.input total)
  have hsource : sourceAfter flow.source (flow.input total) = flow.source := Session.sourceAfter_input
  simp only [step, hgo, heffect, Behaviour.effect, hunread, hsource]

end Flow

namespace Session

/-- The end of a line that has gone on to its end and has this to print. -/
def printing (s : Session) (bytes : Bytes) : Answer Signal := { Flow.start s with bytes }.finish s

variable (s : Session) {m : Machine} {first second : Stage} {c : Behaviour}

theorem chain_alone {reply : Reply} (h : stage.Behaves ⟨m, s.directory⟩ b)
    (hunread : ∀ input, b.answer input = (reply, input)) : s.chain m [stage] = s.printing reply.output := by
  have hstep : Flow.ofStages m s [stage] = (Flow.start s).step m s.directory 1 (stage, 0) := rfl
  rw [chain_eq_finish s m (List.cons_ne_nil _ _), hstep, Flow.step_unread h hunread rfl]
  rfl

theorem chain_pair (hfirst : first.Behaves ⟨m, s.directory⟩ b) (hsecond : second.Behaves ⟨m, s.directory⟩ c) :
    s.chain m [first, second] = s.printing (c.filter (b.filter s.streams.pipe.output)) := by
  have hsteps : Flow.ofStages m s [first, second] =
      ((Flow.start s).step m s.directory 2 (first, 0)).step m s.directory 2 (second, 1) := rfl
  rw [chain_eq_finish s m (List.cons_ne_nil _ _), hsteps, Flow.step_behaves hfirst (by decide) rfl,
    Flow.step_behaves hsecond (by decide) rfl]
  rfl

end Session

end LineShell
