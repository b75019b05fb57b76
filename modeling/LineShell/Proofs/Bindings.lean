import LineShell.Proofs.History
import LineShell.Proofs.Passes

/-!
What operations do to the variables and to the directory of a session. Only assignments bind, and of
a line only those that are reached; what they bind was settled before the line began to run.

  - `runAt_keeps`: no command touches the variables or the directory.
  - `runStage_cases` / `vars_runStages`: a stage binds if it goes on, and so do the stages of a line
    up to the first that does not.
  - `vars_through`: what binding a name keeps is kept by any history.
  - `vars_exact`: all of it for lines, chains, commands and histories.
-/

namespace LineShell

def Stage.assign (vars : Variables) (stage : Stage) : Variables :=
  match Command.ofStage stage with
  | .assign name value => vars.set name value
  | .call _ => vars

namespace Variables

def assign (vars : Variables) (stages : List Stage) : Variables := stages.foldl Stage.assign vars

def Named (vars : Variables) : Prop := ∀ name, (vars.get? name).isSome = true → Command.isName name = true

theorem named_set {vars : Variables} (h : vars.Named) {name : Text} (hname : Command.isName name = true)
    (value : Text) : (vars.set name value).Named := by
  intro n hn
  rw [get?_set] at hn
  by_cases heq : n = name
  · rwa [heq]
  · rw [if_neg heq] at hn
    exact h n hn

theorem bound_set {vars : Variables} {n : Text} (h : (vars.get? n).isSome = true) (name value : Text) :
    ((vars.set name value).get? n).isSome = true := by
  rw [get?_set]
  split
  · rfl
  · exact h

end Variables

theorem Command.isName_of_assign {words : List Word} {name value : Text} (h : ofWords words = .assign name value) :
    isName name = true := by
  obtain ⟨_, _, -, hname, -, -⟩ := ofWords_assign_iff.mp h
  exact hname

namespace Stage

theorem named_assign {vars : Variables} (h : vars.Named) (stage : Stage) : (stage.assign vars).Named := by
  unfold assign
  cases hc : Command.ofStage stage with
  | assign name value => exact Variables.named_set h (Command.isName_of_assign hc) value
  | call argv => exact h

theorem bound_assign {vars : Variables} {n : Text} (h : (vars.get? n).isSome = true) (stage : Stage) :
    ((stage.assign vars).get? n).isSome = true := by
  unfold assign
  cases Command.ofStage stage with
  | assign name value => exact Variables.bound_set h name value
  | call argv => exact h

end Stage

namespace Session

variable (s : Session) (m : Machine)

/-! ## Commands -/

theorem setInput_streams (i : Input) : ∃ streams, s.setInput i = s.setStreams streams := by
  cases i with
  | source source => exact ⟨_, rfl⟩
  | upstream data => exact ⟨_, rfl⟩

/-- Whatever a command does, it does to the streams. -/
theorem runAt_streams (p : Position) (name : Text) (arguments : List Text) :
    ∃ streams, (s.runAt m p name arguments).2 = s.setStreams streams := by
  rw [runAt_eq]
  rcases Command.reply m s.directory name arguments (s.input p) with ⟨e | reply, rest⟩
  · exact setInput_streams s rest
  · obtain ⟨streams, hleft⟩ := setInput_streams s rest
    simp only [hleft, deliver]
    split
    · exact ⟨_, rfl⟩
    · exact ⟨_, rfl⟩

theorem runAt_keeps (p : Position) (name : Text) (arguments : List Text) :
    (s.runAt m p name arguments).2.vars = s.vars ∧ (s.runAt m p name arguments).2.directory = s.directory := by
  obtain ⟨streams, hrun⟩ := runAt_streams s m p name arguments
  rw [hrun]
  exact ⟨rfl, rfl⟩

theorem perform_call (p : Position) (argv : List Text) :
    (s.perform m p (.call argv)).2.vars = s.vars ∧ (s.perform m p (.call argv)).2.directory = s.directory := by
  match argv with
  | [] => exact ⟨rfl, rfl⟩
  | name :: arguments =>
    have hkeeps := runAt_keeps s m p name arguments
    simp only [perform]
    rcases hrun : s.runAt m p name arguments with ⟨e | code, t⟩
    · rwa [hrun] at hkeeps
    · rwa [hrun] at hkeeps

/-! ## Stages -/

/-- A stage that goes on has bound what it assigns, any other has bound nothing. -/
theorem runStage_cases (p : Position) (stage : Stage) :
    (s.runStage m p stage).2.directory = s.directory ∧
      (((s.runStage m p stage).1 = .ok .goOn ∧ (s.runStage m p stage).2.vars = stage.assign s.vars) ∨
        ((s.runStage m p stage).1 ≠ .ok .goOn ∧ (s.runStage m p stage).2.vars = s.vars)) := by
  unfold runStage
  by_cases hempty : stage.isEmpty = true
  · rw [if_pos hempty]
    exact ⟨rfl, Or.inr ⟨nofun, rfl⟩⟩
  · rw [if_neg hempty]
    unfold Stage.assign
    cases Command.ofStage stage with
    | assign name value => exact ⟨rfl, Or.inl ⟨rfl, rfl⟩⟩
    | call argv =>
      obtain ⟨hvars, hdirectory⟩ := perform_call (s.setPipe s.streams.pipe.redirect) m p argv
      rcases hrun : (s.setPipe s.streams.pipe.redirect).perform m p (.call argv) with ⟨result, t⟩
      rw [hrun] at hvars hdirectory
      by_cases hgo : result = .ok .goOn
      · subst hgo
        exact ⟨hdirectory, Or.inl ⟨rfl, hvars⟩⟩
      · split
        · rename_i heq
          exact absurd (congrArg Prod.fst heq) hgo
        · exact ⟨hdirectory, Or.inr ⟨hgo, hvars⟩⟩

/-- How many of the stages from `index` on go on, up to the first that does not. -/
def completedFrom (m : Machine) (total : Nat) : Nat → Session → List Stage → Nat
  | _, _, [] => 0
  | index, s, stage :: rest =>
    match s.runStage m ⟨index, total⟩ stage with
    | (.ok .goOn, s) => completedFrom m total (index + 1) s rest + 1
    | _ => 0

section

variable {s m} {index total : Nat} {stage : Stage}

theorem completedFrom_cons_goOn {s' : Session} (h : s.runStage m ⟨index, total⟩ stage = (.ok .goOn, s'))
    (rest : List Stage) :
    completedFrom m total index s (stage :: rest) = completedFrom m total (index + 1) s' rest + 1 := by
  rw [completedFrom, h]

theorem completedFrom_cons_stop (h : (s.runStage m ⟨index, total⟩ stage).1 ≠ .ok .goOn) (rest : List Stage) :
    completedFrom m total index s (stage :: rest) = 0 := by
  rw [completedFrom]
  split
  · rename_i heq
    exact absurd (congrArg Prod.fst heq) h
  · rfl

end

def completed (stages : List Stage) : Nat := completedFrom m stages.length 0 s stages

theorem flush_keeps : s.flush.2.vars = s.vars ∧ s.flush.2.directory = s.directory := by
  unfold flush
  split
  · exact ⟨rfl, rfl⟩
  · exact ⟨rfl, rfl⟩

/-- The stages that go on bind what they assign, and nothing else is bound. -/
theorem vars_runStages (total : Nat) (stages : List Stage) : ∀ (index : Nat) (s : Session),
    (runStages m total index s stages).2.vars =
        s.vars.assign (stages.take (completedFrom m total index s stages)) ∧
      (runStages m total index s stages).2.directory = s.directory := by
  -- The place and the session change with every stage, so the induction is for all of them.
  induction stages with
  | nil => exact fun _ s => flush_keeps s
  | cons stage rest ih =>
    intro index s
    obtain ⟨hdirectory, ⟨hgo, hvars⟩ | ⟨hstop, hvars⟩⟩ := runStage_cases s m ⟨index, total⟩ stage
    · rcases hrun : s.runStage m ⟨index, total⟩ stage with ⟨result, t⟩
      rw [hrun] at hgo hvars hdirectory
      obtain rfl : result = .ok .goOn := hgo
      obtain ⟨hrest, hthere⟩ := ih (index + 1) t
      rw [runStages_cons_goOn hrun, completedFrom_cons_goOn hrun]
      refine ⟨?_, hthere.trans hdirectory⟩
      rw [hrest, hvars]
      rfl
    · rw [runStages_cons_stop hstop, completedFrom_cons_stop hstop]
      exact ⟨hvars, hdirectory⟩

theorem vars_chain (stages : List Stage) :
    (s.chain m stages).2.vars = s.vars.assign (stages.take (s.completed m stages)) ∧
      (s.chain m stages).2.directory = s.directory := by
  have hrun := vars_runStages m stages.length stages 0 s
  unfold chain
  split
  · rename_i heq
    rwa [heq] at hrun
  · rename_i heq
    rwa [heq] at hrun

end Session

/-! ## Histories -/

/-- The stages of an operation that go on, up to the first that does not. -/
def Operation.completed (m : Machine) (s : Session) : Operation → List Stage
  | line text =>
    match Stage.ofLine s.vars text with
    | .ok stages => stages.take (s.completed m stages)
    | .error _ => []
  | chain stages => stages.take (s.completed m stages)
  | run _ _ => []

theorem Operation.vars_answer (m : Machine) (s : Session) (o : Operation) :
    (o.answer m s).2.vars = s.vars.assign (o.completed m s) ∧ (o.answer m s).2.directory = s.directory := by
  cases o with
  | line text =>
    simp only [answer, completed]
    cases hline : Stage.ofLine s.vars text with
    | error e =>
      rw [Session.line_rejected m hline]
      exact ⟨rfl, rfl⟩
    | ok stages =>
      rw [Session.line_accepted m hline]
      exact Session.vars_chain s m stages
  | chain stages => exact Session.vars_chain s m stages
  | run name arguments => exact Session.runAt_keeps s m .alone name arguments

namespace Session

variable {s : Session}

/-- What assignments keep is kept by every event but a binding from outside. -/
theorem vars_step {P : Variables → Prop} (hassign : ∀ vars stage, P vars → P (Stage.assign vars stage)) {e : Event}
    (he : ∀ name value, e ≠ .bind name value) (h : P s.vars) : P (s.step e).vars := by
  cases e with
  | perform m o =>
    show P (o.answer m s).2.vars
    rw [(o.vars_answer m s).1, Variables.assign]
    generalize o.completed m s = stages
    generalize s.vars = vars at h
    induction stages generalizing vars with
    | nil => exact h
    | cons stage stages ih => exact ih (stage.assign vars) (hassign vars stage h)
  | bind name value => exact absurd rfl (he name value)
  | enter directory => exact h
  | feed source => exact h
  | room bytes => exact h

theorem vars_through {P : Variables → Prop} (hassign : ∀ vars stage, P vars → P (Stage.assign vars stage))
    {history : List Event} (hbind : ∀ name value, .bind name value ∉ history) (h : P s.vars) :
    P (s.through history).vars := by
  refine through_induction (P := fun s => P s.vars) h fun e he t ht => vars_step hassign ?_ ht
  rintro name value rfl
  exact hbind name value he

/-- What lines, chains and runs do to the variables. A line that is rejected before it runs changes
nothing. Of any other line, and of a chain, the stages that go on, up to the first that does not,
bind what they assign; the stages of a line, and so the values, come from the variables before it.
No command changes a variable or the directory. So, over any history without bindings from outside,
a session that starts with no variables binds names only, and no variable is ever removed. -/
theorem vars_exact (s : Session) (m : Machine) :
    (∀ text e, Stage.ofLine s.vars text = .error e → (s.line m text).2.vars = s.vars) ∧
      (∀ text stages, Stage.ofLine s.vars text = .ok stages →
        (s.line m text).2.vars = s.vars.assign (stages.take (s.completed m stages))) ∧
      (∀ stages, (s.chain m stages).2.vars = s.vars.assign (stages.take (s.completed m stages))) ∧
      (∀ p name arguments, (s.runAt m p name arguments).2.vars = s.vars ∧
        (s.runAt m p name arguments).2.directory = s.directory) ∧
      (∀ o : Operation, (o.answer m s).2.directory = s.directory) ∧
      ∀ history, (∀ name value, .bind name value ∉ history) →
        (s.vars = {} → ∀ name, ((s.through history).vars.get? name).isSome = true → Command.isName name = true) ∧
          ∀ name, (s.vars.get? name).isSome = true → ((s.through history).vars.get? name).isSome = true := by
  refine ⟨fun text e h => ?_, fun text stages h => ?_, fun stages => (vars_chain s m stages).1,
    runAt_keeps s m, fun o => (o.vars_answer m s).2, fun history hbind => ⟨fun hempty => ?_, fun name hname => ?_⟩⟩
  · rw [line_rejected m h]
  · rw [line_accepted m h]
    exact (vars_chain s m stages).1
  · refine vars_through (P := Variables.Named) (fun _ stage hnamed => Stage.named_assign hnamed stage) hbind ?_
    rw [hempty]
    intro name h
    cases h
  · exact vars_through (P := fun vars => (vars.get? name).isSome = true)
      (fun _ stage hbound => Stage.bound_assign hbound stage) hbind hname

/-- A line whose fourth stage is empty: three stages go on, and the second one refers to what the
first one binds. -/
def broken : Text := "x=1 | y=$x | cat | | z=2".toList

def brokenStages : List Stage :=
  [⟨[.bare "x".toList, .bare ['='], .bare ['1'], .bare [' ']]⟩,
    ⟨[.bare [' '], .bare "y".toList, .bare ['='], .expansion [], .bare [' ']]⟩,
    ⟨[.bare [' '], .bare "cat".toList, .bare [' ']]⟩, ⟨[.bare [' ']]⟩,
    ⟨[.bare [' '], .bare "z".toList, .bare ['='], .bare ['2']]⟩]

/-- The first two stages of the line bind, the last one does not, and what they bind is still bound
after a run. -/
theorem vars_exact_broken :
    let m := ({} : Host).machine
    let history : List Event := [.perform m (.line broken), .perform m (.run "exit".toList [])]
    Stage.ofLine {} broken = .ok brokenStages ∧ completed {} m brokenStages = 3 ∧
      (({} : Session).line m broken).2.vars = ⟨[("x".toList, ['1']), ("y".toList, [])]⟩ ∧
      (∀ name value, .bind name value ∉ history) ∧
      ∀ name, ((({} : Session).through history).vars.get? name).isSome = true → Command.isName name = true := by
  intro m history
  obtain ⟨-, hline, -, -, -, hhistory⟩ := vars_exact {} m
  have hstages : Stage.ofLine {} broken = .ok brokenStages := rfl
  have hthree : completed {} m brokenStages = 3 := by decide +kernel
  have hbind : ∀ name value, Event.bind name value ∉ history := by
    intro name value
    simp [history]
  refine ⟨hstages, hthree, ?_, hbind, (hhistory history hbind).1 rfl⟩
  rw [hline broken brokenStages hstages, hthree]
  rfl

end Session

end LineShell
