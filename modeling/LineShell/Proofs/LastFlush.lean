import LineShell.Proofs.Endings

/-!
The flush at the end of a line. The last stage's own flush comes before it, so when all stages have run
and the line goes on, nothing is left in the pipe, whatever was there when the line began. A sink that
takes no more is met by a command and reported as that command's failure.

  - `Reaches`: the stages that have run, and the session after them.
  - `pipe_runStage_last`: a last stage after which the line goes on leaves nothing in the pipe.
  - `runStages_cases`: a line comes to its flush, or it stops at a stage with what that stage says.
  - `runStage_error_cases`: what a stage can fail with.
  - `runStage_of_writeFails`: a command whose bytes the sink does not take fails its stage.
  - `last_flush_idle`: all of it for a session in any state.
-/

namespace LineShell

namespace Session

/-- The stages from `index` on have run from `s`, and the line goes on after each: `t` is the session then. -/
inductive Reaches (m : Machine) (total : Nat) : Nat → Session → List Stage → Session → Prop
  | nil {index : Nat} {s : Session} : Reaches m total index s [] s
  | cons {index : Nat} {s u t : Session} {stage : Stage} {rest : List Stage} :
      s.runStage m ⟨index, total⟩ stage = (.ok .goOn, u) → Reaches m total (index + 1) u rest t →
        Reaches m total index s (stage :: rest) t

/-- A command that runs in `s` has written something, and the flush of it to the sink fails. -/
def WriteFails (s : Session) (m : Machine) (p : Position) (c : Command) (cause : Text) : Prop :=
  ∃ name arguments reply rest, c = .call (name :: arguments) ∧
    Command.reply m s.directory name arguments (s.input p) = (.ok reply, rest) ∧
    (((s.setInput rest).streams.append reply.output).flush p).1 = .error cause

variable {s t : Session} {m : Machine} {p : Position} {stage : Stage} {index total : Nat}

/-! ## One stage -/

/-- A stage that is not empty is carried out with what the pipe held as its input. -/
theorem runStage_perform (hempty : stage.isEmpty = false) :
    (s.runStage m p stage).1 = ((s.setPipe s.streams.pipe.redirect).perform m p (Command.ofStage stage)).1 := by
  rw [runStage, if_neg (by simp [hempty])]
  split
  · rename_i heq
    rw [heq]
  · rfl

/-- A last stage after which the line goes on has passed on all it wrote. -/
theorem pipe_runStage_last (hp : p.isLast = true) (h : s.runStage m p stage = (.ok .goOn, t)) :
    t.streams.pipe = {} := by
  cases hempty : stage.isEmpty with
  | true =>
    rw [runStage, if_pos hempty] at h
    cases h
  | false =>
    rw [runStage, if_neg (by simp [hempty])] at h
    generalize hu : s.setPipe s.streams.pipe.redirect = u at h
    have hout : u.streams.pipe.output = [] := by rw [← hu]; rfl
    generalize he : (Command.ofStage stage).effect m u.directory u.vars (u.input p) = e at h
    rw [perform_last u m hp hout _ he] at h
    rcases hwrite : u.streams.sink.write e.output with ⟨cause | _, sink⟩
    · rw [hwrite] at h
      cases h
    · rw [hwrite] at h
      by_cases hgo : e.outcome = .ok .goOn
      · simp only [hgo, Prod.mk.injEq, true_and] at h
        have houtput : (u.after e).streams.pipe.output = [] := by
          unfold after
          rw [← hout]
          exact setInput_output u e.rest
        rw [← h]
        show Pipe.mk (u.after e).streams.pipe.output [] = {}
        rw [houtput]
      · split at h
        · rename_i heq
          exact absurd (congrArg Prod.fst heq) hgo
        · exact absurd (congrArg Prod.fst h) hgo

/-- A command fails because it gives no reply, or because the sink does not take what it wrote. -/
theorem runAt_error_cases {name : Text} {arguments : List Text} {e : LineError}
    (h : (s.runAt m p name arguments).1 = .error e) : e = .unknownCommand name ∨ ∃ cause, e = .command cause := by
  rw [runAt_eq] at h
  rcases hreply : Command.reply m s.directory name arguments (s.input p) with ⟨cause | reply, rest⟩
  · rw [hreply] at h
    cases h
    exact Command.reply_error_cases hreply
  · rw [hreply] at h
    simp only [deliver] at h
    split at h
    · cases h
    · cases h
      exact Or.inr ⟨_, rfl⟩

theorem runStage_error_cases {e : LineError} (h : (s.runStage m p stage).1 = .error e) :
    e = .emptyStage p.index p.total ∨ (∃ name, e = .unknownCommand name) ∨ ∃ cause, e = .command cause := by
  cases hempty : stage.isEmpty with
  | true =>
    rw [runStage, if_pos hempty] at h
    cases h
    exact Or.inl rfl
  | false =>
    rw [runStage_perform hempty] at h
    rcases hc : Command.ofStage stage with ⟨name, value⟩ | ⟨_ | ⟨name, arguments⟩⟩
    · rw [hc] at h
      cases h
    · rw [hc] at h
      cases h
    · rw [hc, perform] at h
      split at h
      · cases h
      · rename_i cause u heq
        cases h
        rcases runAt_error_cases (congrArg Prod.fst heq) with hunknown | hcommand
        · exact Or.inr (Or.inl ⟨name, hunknown⟩)
        · exact Or.inr (Or.inr hcommand)

/-- A command whose bytes the sink does not take fails its stage. -/
theorem runStage_of_writeFails {cause : Text}
    (h : (s.setPipe s.streams.pipe.redirect).WriteFails m p (Command.ofStage stage) cause) :
    (s.runStage m p stage).1 = .error (.command cause) := by
  obtain ⟨name, arguments, reply, rest, hcall, hreply, hflush⟩ := h
  have hrun : ((s.setPipe s.streams.pipe.redirect).runAt m p name arguments).1 = .error (.command cause) := by
    rw [runAt_eq, hreply]
    simp only [deliver]
    split
    · rename_i heq
      rw [heq] at hflush
      cases hflush
    · rename_i heq
      rw [heq] at hflush
      cases hflush
      rfl
  rw [runStage_perform (Stage.isEmpty_of_call hcall), hcall, perform]
  split
  · rename_i heq
    rw [heq] at hrun
    cases hrun
  · rename_i heq
    rw [heq] at hrun
    cases hrun
    rfl

/-! ## The stages of a line -/

/-- The last stage starts where the stages before it have come to. -/
theorem runStage_of_reaches {front : List Stage} (h : Reaches m total index s (front ++ [stage]) t) :
    ∃ u : Session, u.runStage m ⟨index + front.length, total⟩ stage = (.ok .goOn, t) := by
  induction front generalizing index s with
  | nil =>
    cases h with
    | cons hrun hrest =>
      cases hrest
      exact ⟨s, hrun⟩
  | cons first front ih =>
    cases h with
    | cons hrun hrest =>
      obtain ⟨u, hu⟩ := ih hrest
      refine ⟨u, ?_⟩
      rwa [List.length_cons, show index + (front.length + 1) = index + 1 + front.length by omega]

theorem pipe_of_reaches {stages : List Stage} (hne : stages ≠ []) (h : Reaches m stages.length 0 s stages t) :
    t.streams.pipe = {} := by
  obtain ⟨front, last, rfl⟩ : ∃ front last, stages = front ++ [last] :=
    ⟨_, _, (List.dropLast_append_getLast hne).symm⟩
  obtain ⟨u, hu⟩ := runStage_of_reaches h
  have hlast : (⟨0 + front.length, (front ++ [last]).length⟩ : Position).isLast = true := by
    rw [Position.isLast_eq (by simp)]
    simp
  exact pipe_runStage_last hlast hu

/-- Behind stages that have run, the line does what its other stages do. -/
theorem runStages_of_reaches {front : List Stage} (h : Reaches m total index s front t) (rest : List Stage) :
    runStages m total index s (front ++ rest) = runStages m total (index + front.length) t rest := by
  induction h with
  | nil => rfl
  | @cons index s u t stage front hrun _ ih =>
    rw [List.cons_append, runStages_cons_goOn hrun, ih, List.length_cons,
      show index + 1 + front.length = index + (front.length + 1) by omega]

/-- All stages run, or there is a first one after which the line does not go on, and its end is the line's. -/
theorem runStages_cases (m : Machine) (total : Nat) (stages : List Stage) : ∀ (index : Nat) (s : Session),
    (∃ t, Reaches m total index s stages t) ∨
      ∃ (p : Position) (t : Session) (stage : Stage), (t.runStage m p stage).1 ≠ .ok .goOn ∧
        (runStages m total index s stages).1 = (t.runStage m p stage).1 := by
  induction stages with
  | nil => intro index s; exact Or.inl ⟨s, .nil⟩
  | cons stage rest ih =>
    intro index s
    rcases hrun : s.runStage m ⟨index, total⟩ stage with ⟨result, u⟩
    by_cases hgo : result = .ok .goOn
    · subst hgo
      rw [runStages_cons_goOn hrun]
      rcases ih (index + 1) u with ⟨t, ht⟩ | hstop
      · exact Or.inl ⟨t, .cons hrun ht⟩
      · exact Or.inr hstop
    · have hstop : (s.runStage m ⟨index, total⟩ stage).1 ≠ .ok .goOn := by rwa [hrun]
      exact Or.inr ⟨_, s, stage, hstop, by rw [runStages_cons_stop hstop]⟩

/-- A chain says what its stages say: it only empties the pipe. -/
theorem chain_fst (s : Session) (m : Machine) (stages : List Stage) :
    (s.chain m stages).1 = (runStages m stages.length 0 s stages).1 := by
  unfold chain
  split
  · rename_i heq
    rw [heq]
  · rename_i heq
    rw [heq]

/-- The flush at the end of a line has nothing to do. -/
theorem flush_of_reaches {stages : List Stage} (hne : stages ≠ []) (h : Reaches m stages.length 0 s stages t) :
    runStages m stages.length 0 s stages = t.flush ∧ t.flush = (.ok .goOn, t) := by
  have hrun := runStages_of_reaches h []
  rw [List.append_nil] at hrun
  exact ⟨hrun, flush_idle (pipe_of_reaches hne h)⟩

/-- So a chain that has stages fails only as its stages do. -/
theorem chain_ne_transfer {stages : List Stage} (hne : stages ≠ []) (cause : Text) :
    (s.chain m stages).1 ≠ .error (.transfer cause) := by
  rw [chain_fst]
  rcases runStages_cases m stages.length stages 0 s with ⟨t, ht⟩ | ⟨p, t, stage, -, hresult⟩
  · obtain ⟨hrun, hflush⟩ := flush_of_reaches hne ht
    rw [hrun, hflush]
    nofun
  · rw [hresult]
    intro herror
    rcases runStage_error_cases herror with h | ⟨name, h⟩ | ⟨text, h⟩ <;> cases h

theorem chain_of_writeFails {front rest : List Stage} {cause : Text}
    (h : Reaches m (front ++ stage :: rest).length 0 s front t)
    (hwrite : (t.setPipe t.streams.pipe.redirect).WriteFails m ⟨front.length, (front ++ stage :: rest).length⟩
      (Command.ofStage stage) cause) :
    (s.chain m (front ++ stage :: rest)).1 = .error (.command cause) := by
  have hfail := runStage_of_writeFails hwrite
  have hstop : (t.runStage m ⟨0 + front.length, (front ++ stage :: rest).length⟩ stage).1 ≠ .ok .goOn := by
    rw [Nat.zero_add, hfail]
    nofun
  rw [chain_fst, runStages_of_reaches h, runStages_cons_stop hstop, Nat.zero_add, hfail]

/-- For a session in any state, also with bytes in its pipe: when a line that has stages comes to its
last flush, the pipe has no output, and the flush changes nothing and sends nothing. So no line fails
in a flush of its own. If the sink does not take what a command writes, at whatever stage the line has
come to, the line fails with that command's error. -/
theorem last_flush_idle (s : Session) (m : Machine) :
    (∀ stages t, stages ≠ [] → Reaches m stages.length 0 s stages t →
      runStages m stages.length 0 s stages = t.flush ∧ t.streams.pipe.output = [] ∧ t.flush = (.ok .goOn, t)) ∧
    (∀ stages cause, stages ≠ [] → (s.chain m stages).1 ≠ .error (.transfer cause)) ∧
    (∀ text cause, (s.line m text).1 ≠ .error (.transfer cause)) ∧
    ∀ front stage rest t cause, Reaches m (front ++ stage :: rest).length 0 s front t →
      (t.setPipe t.streams.pipe.redirect).WriteFails m ⟨front.length, (front ++ stage :: rest).length⟩
        (Command.ofStage stage) cause →
      (s.chain m (front ++ stage :: rest)).1 = .error (.command cause) := by
  refine ⟨fun stages t hne h => ?_, fun stages cause hne => chain_ne_transfer hne cause, fun text cause => ?_,
    fun front stage rest t cause h hwrite => chain_of_writeFails h hwrite⟩
  · obtain ⟨hrun, hflush⟩ := flush_of_reaches hne h
    exact ⟨hrun, by rw [pipe_of_reaches hne h], hflush⟩
  · cases hline : Stage.ofLine s.vars text with
    | error e =>
      rw [line_rejected m hline]
      obtain ⟨quote, rfl⟩ := Stage.ofLine_error hline
      nofun
    | ok stages =>
      rw [line_accepted m hline]
      exact chain_ne_transfer (Stage.ofLine_ne_nil hline) cause

def binding : Stage := ⟨[.bare ['x'], .bare ['='], .bare ['1']]⟩

/-- Old bytes in the pipe are gone when an assignment has run. Two copies pass them on, and the second
one fails, as they are more than the sink takes. -/
theorem last_flush_idle_stale :
    let m := ({} : Host).machine
    let copy : Stage := ⟨[.bare "cat".toList]⟩
    let bound := (stale.runStage m ⟨0, 1⟩ binding).2
    let copied := (stale.runStage m ⟨0, 2⟩ copy).2
    Reaches m 1 0 stale [binding] bound ∧ bound.streams.pipe.output = [] ∧ bound.flush = (.ok .goOn, bound) ∧
      Reaches m 2 0 stale [copy] copied ∧
      (copied.setPipe copied.streams.pipe.redirect).WriteFails m ⟨1, 2⟩ (Command.ofStage copy) Sink.full ∧
      (stale.chain m [copy, copy]).1 = .error (.command Sink.full) := by
  intro m copy bound copied
  obtain ⟨hidle, -, -, hfails⟩ := last_flush_idle stale m
  have hbound : Reaches m 1 0 stale [binding] bound := .cons rfl .nil
  have hcopied : Reaches m 2 0 stale [copy] copied := .cons rfl .nil
  have hwrite : (copied.setPipe copied.streams.pipe.redirect).WriteFails m ⟨1, 2⟩ (Command.ofStage copy) Sink.full :=
    ⟨"cat".toList, [], ⟨[111, 108, 100], 0⟩, .upstream [], rfl, rfl, rfl⟩
  obtain ⟨-, houtput, hflush⟩ := hidle [binding] bound (List.cons_ne_nil _ _) hbound
  exact ⟨hbound, houtput, hflush, hcopied, hwrite, hfails [copy] copy [] copied _ hcopied hwrite⟩

end Session

end LineShell
