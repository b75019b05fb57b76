import LineShell.Host
import LineShell.Proofs.Effect

/-!
A chain as the fold of its stages. The session runs the stages over a two-sided buffer; the fold
knows only functions of stages, and hands the bytes that one stage writes to the next one.

  - `runStage_inner` / `runStage_last`: one stage of the session is one step of the fold.
  - `runStages_eq`: the stages that are left are the rest of the fold.
  - `chain_eq_fold`: a chain is its fold, and the last stage's bytes are all that is printed.
-/

namespace LineShell

/-! ## The fold -/

/-- Where the fold of the stages stands. -/
structure Flow where
  /-- Anything but `goOn` ends the line. -/
  outcome : Except LineError Signal := .ok .goOn
  vars : Variables
  source : Source
  /-- What the stage before wrote. -/
  bytes : Bytes

namespace Flow

def sourceAfter (source : Source) : Input → Source
  | .source left => left
  | .upstream _ => source

/-- What the next stage has to read: the source, if there is no other stage, and else the bytes of
the stage before. -/
def input (flow : Flow) (total : Nat) : Input :=
  if total = 1 then .source flow.source else .upstream flow.bytes

def step (m : Machine) (directory : Text) (total : Nat) (flow : Flow) (numbered : Stage × Nat) : Flow :=
  match flow.outcome with
  | .ok .goOn =>
    let e := numbered.1.effect m directory ⟨numbered.2, total⟩ flow.vars (flow.input total)
    { outcome := e.outcome, vars := e.vars, source := sourceAfter flow.source e.rest, bytes := e.output }
  | _ => flow

/-- The fold before the first stage, whose upstream is what the buffer holds. -/
def start (s : Session) : Flow :=
  { vars := s.vars, source := s.streams.source, bytes := s.streams.pipe.output }

def ofStages (m : Machine) (s : Session) (stages : List Stage) : Flow :=
  stages.zipIdx.foldl (step m s.directory stages.length) (start s)

/-- The session after a fold, with nothing in its pipe. -/
def leave (flow : Flow) (s : Session) (sink : Sink) : Session :=
  { s with vars := flow.vars, streams := { source := flow.source, sink } }

/-- The end of a fold. If all stages went on, the bytes of the last one go to the sink, and it is an
error of that stage if they do not fit. If not, nothing goes to the sink. -/
def finish (flow : Flow) (s : Session) : Answer Signal :=
  match flow.outcome with
  | .ok .goOn =>
    match s.streams.sink.write flow.bytes with
    | (.ok (), sink) => (.ok .goOn, flow.leave s sink)
    | (.error cause, sink) => (.error (.command cause), flow.leave s sink)
  | outcome => (outcome, flow.leave s s.streams.sink)

variable {flow : Flow}

theorem step_of_stop {m : Machine} {directory : Text} {total : Nat} (h : flow.outcome ≠ .ok .goOn)
    (numbered : Stage × Nat) : flow.step m directory total numbered = flow := by
  unfold step
  split
  · contradiction
  · rfl

theorem finish_of_stop {s : Session} (h : flow.outcome ≠ .ok .goOn) :
    flow.finish s = (flow.outcome, flow.leave s s.streams.sink) := by
  unfold finish
  split
  · contradiction
  · rfl

/-- A fold that goes on ends the line only if the sink does not take its bytes. -/
theorem finish_of_goOn {s : Session} (h : flow.outcome = .ok .goOn) :
    ((flow.finish s).1 = .ok .goOn ∧ (s.streams.sink.write flow.bytes).1 = .ok ()) ∨
      ∃ cause, (flow.finish s).1 = .error (.command cause) ∧ (s.streams.sink.write flow.bytes).1 = .error cause := by
  rw [finish, h]
  rcases s.streams.sink.write flow.bytes with ⟨cause | _, sink⟩
  · exact Or.inr ⟨cause, rfl, rfl⟩
  · exact Or.inl ⟨rfl, rfl⟩

end Flow

/-! ## Positions -/

theorem Position.isSingle_eq (p : Position) : p.isSingle = decide (p.total = 1) := by
  unfold isSingle placement
  repeat' split
  all_goals simp_all

theorem Position.isLast_eq {p : Position} (h : p.index < p.total) : p.isLast = decide (p.index + 1 = p.total) := by
  unfold isLast placement
  by_cases h1 : p.total = 1
  · have : p.index + 1 = p.total := by omega
    simp [h1, this]
  by_cases h0 : p.index = 0
  · have : p.index + 1 ≠ p.total := by omega
    simp [h0, h1, Ne.symm h1]
  by_cases hl : p.index + 1 = p.total
  · simp [h0, h1, hl]
  · simp [h0, h1, hl]

/-! ## One stage -/

/-- An answer of the session stands for the end of a fold: it may have left something in the pipe,
but only if the line does not go on. -/
def Flow.Ends (flow : Flow) (s : Session) (answer : Answer Signal) : Prop :=
  (answer.1, answer.2.setPipe {}) = flow.finish s ∧ (answer.1 = .ok .goOn → answer.2.streams.pipe = {})

namespace Session

/-- The session within a chain, where the fold stands. -/
def within (s : Session) (flow : Flow) (pipe : Pipe) : Session :=
  { s with vars := flow.vars, streams := { s.streams with source := flow.source, pipe } }

variable {s : Session} {m : Machine} {flow next : Flow} {stage : Stage} {index total : Nat}

/-- What a stage can read is what the fold has for it. -/
theorem input_within : (s.within flow ⟨[], flow.bytes⟩).input ⟨index, total⟩ = flow.input total := by
  unfold input Flow.input
  rw [Position.isSingle_eq]
  by_cases h : total = 1 <;> simp [h] <;> rfl

theorem sourceAfter_input : Flow.sourceAfter flow.source (flow.input total) = flow.source := by
  unfold Flow.input
  split <;> rfl

/-- The session after a stage, where the fold stands then. -/
theorem after_within (s : Session) (data : Bytes) {e : Effect} (hvars : next.vars = e.vars)
    (hsource : next.source = Flow.sourceAfter flow.source e.rest) :
    ∃ left, (s.within flow ⟨[], data⟩).after e = s.within next ⟨[], left⟩ := by
  unfold after within
  rw [hvars, hsource]
  cases e.rest with
  | source left => exact ⟨data, rfl⟩
  | upstream left => exact ⟨left, rfl⟩

/-- A step of the fold that has not ended is the effect of its stage. -/
theorem step_goOn (hflow : flow.outcome = .ok .goOn)
    (hnext : flow.step m s.directory total (stage, index) = next) :
    ∃ e, stage.effect m s.directory ⟨index, total⟩ flow.vars (flow.input total) = e ∧
      next.outcome = e.outcome ∧ next.vars = e.vars ∧
      next.source = Flow.sourceAfter flow.source e.rest ∧ next.bytes = e.output := by
  simp only [Flow.step, hflow] at hnext
  subst hnext
  exact ⟨_, rfl, rfl, rfl, rfl, rfl⟩

theorem ends_of_stop (pipe : Pipe) (h : flow.outcome ≠ .ok .goOn) :
    flow.Ends s (flow.outcome, s.within flow pipe) := by
  refine ⟨?_, fun hgo => absurd hgo h⟩
  rw [Flow.finish_of_stop h]
  rfl

theorem runStage_empty (pipe : Pipe) (hflow : flow.outcome = .ok .goOn) (hempty : stage.isEmpty = true)
    (hnext : flow.step m s.directory total (stage, index) = next) :
    next.outcome ≠ .ok .goOn ∧ next.Ends s ((s.within flow pipe).runStage m ⟨index, total⟩ stage) := by
  obtain ⟨e, he, houtcome, hvars, hsource, -⟩ := step_goOn hflow hnext
  rw [Stage.effect, if_pos hempty] at he
  subst he
  rw [sourceAfter_input] at hsource
  have hstop : next.outcome ≠ .ok .goOn := by simp [houtcome]
  refine ⟨hstop, ?_⟩
  have hend := ends_of_stop (s := s) pipe hstop
  rw [runStage, if_pos hempty]
  simpa only [houtcome, within, hvars, hsource] using hend

/-- A stage that is not empty is carried out with what the stage before it wrote as its input. -/
theorem runStage_nonempty (left : Bytes) (hempty : stage.isEmpty = false) :
    (s.within flow ⟨flow.bytes, left⟩).runStage m ⟨index, total⟩ stage =
      match (s.within flow ⟨[], flow.bytes⟩).perform m ⟨index, total⟩ (Command.ofStage stage) with
      | (.ok .goOn, s) => (.ok .goOn, s.setPipe s.streams.pipe.clearInput)
      | answer => answer := by
  rw [runStage, if_neg (by simp [hempty])]
  rfl

theorem effect_within (hempty : stage.isEmpty = false) :
    (Command.ofStage stage).effect m (s.within flow ⟨[], flow.bytes⟩).directory
        (s.within flow ⟨[], flow.bytes⟩).vars ((s.within flow ⟨[], flow.bytes⟩).input ⟨index, total⟩) =
      stage.effect m s.directory ⟨index, total⟩ flow.vars (flow.input total) := by
  rw [input_within]
  exact (if_neg (by simp [hempty])).symm

/-- A stage before the last one goes on with the fold, or ends it. -/
theorem runStage_inner (left : Bytes) (hflow : flow.outcome = .ok .goOn) (hi : index + 1 < total)
    (hnext : flow.step m s.directory total (stage, index) = next) :
    (next.outcome = .ok .goOn ∧
      (s.within flow ⟨flow.bytes, left⟩).runStage m ⟨index, total⟩ stage =
        (.ok .goOn, s.within next ⟨next.bytes, []⟩)) ∨
    (next.outcome ≠ .ok .goOn ∧
      next.Ends s ((s.within flow ⟨flow.bytes, left⟩).runStage m ⟨index, total⟩ stage)) := by
  cases hempty : stage.isEmpty with
  | true => exact Or.inr (runStage_empty _ hflow hempty hnext)
  | false =>
    have hlast : (⟨index, total⟩ : Position).isLast = false := by
      rw [Position.isLast_eq (show index < total by omega)]
      exact decide_eq_false (by show index + 1 ≠ total; omega)
    obtain ⟨e, he, houtcome, hvars, hsource, hbytes⟩ := step_goOn hflow hnext
    obtain ⟨left', hafter⟩ := after_within s flow.bytes hvars hsource
    rw [runStage_nonempty left hempty, perform_inner _ m hlast rfl _ ((effect_within hempty).trans he), hafter,
      ← houtcome, ← hbytes]
    by_cases hgo : next.outcome = .ok .goOn
    · left
      rw [hgo]
      exact ⟨rfl, rfl⟩
    · right
      refine ⟨hgo, ?_⟩
      split
      · rename_i heq
        exact absurd (congrArg Prod.fst heq) hgo
      · exact ends_of_stop ⟨next.bytes, left'⟩ hgo

theorem runStage_last (left : Bytes) (hflow : flow.outcome = .ok .goOn) (hi : index + 1 = total)
    (hnext : flow.step m s.directory total (stage, index) = next) :
    next.Ends s ((s.within flow ⟨flow.bytes, left⟩).runStage m ⟨index, total⟩ stage) := by
  cases hempty : stage.isEmpty with
  | true => exact (runStage_empty _ hflow hempty hnext).2
  | false =>
    have hlast : (⟨index, total⟩ : Position).isLast = true := by
      rw [Position.isLast_eq (show index < total by omega)]
      exact decide_eq_true hi
    obtain ⟨e, he, houtcome, hvars, hsource, hbytes⟩ := step_goOn hflow hnext
    obtain ⟨left', hafter⟩ := after_within s flow.bytes hvars hsource
    have hsink : (s.within flow ⟨[], flow.bytes⟩).streams.sink = s.streams.sink := rfl
    rw [runStage_nonempty left hempty, perform_last _ m hlast rfl _ ((effect_within hempty).trans he), hafter,
      ← houtcome, ← hbytes, hsink]
    by_cases hgo : next.outcome = .ok .goOn
    · unfold Flow.Ends Flow.finish
      rw [hgo]
      rcases s.streams.sink.write next.bytes with ⟨cause | _, sink⟩
      · exact ⟨rfl, fun h => nomatch h⟩
      · exact ⟨rfl, fun _ => rfl⟩
    · have hsilent : next.bytes = [] := by
        rw [hbytes, ← he]
        exact effect_silent (by rwa [he, ← houtcome])
      rw [hsilent, Sink.write_nil]
      split
      · rename_i heq
        exact absurd (congrArg Prod.fst heq) hgo
      · exact ends_of_stop ⟨[], left'⟩ hgo

/-! ## The chain -/

theorem foldl_of_stop (h : flow.outcome ≠ .ok .goOn) (numbered : List (Stage × Nat)) :
    numbered.foldl (Flow.step m s.directory total) flow = flow := by
  induction numbered with
  | nil => rfl
  | cons x rest ih => rw [List.foldl_cons, Flow.step_of_stop h, ih]

theorem ends_stays_stopped {answer : Answer Signal} (h : flow.Ends s answer) (hstop : flow.outcome ≠ .ok .goOn) :
    answer.1 ≠ .ok .goOn := by
  have hfst : answer.1 = (flow.finish s).1 := by rw [← h.1]
  rw [hfst, Flow.finish_of_stop hstop]
  exact hstop

/-- A session with nothing in its pipe has nothing to print at the end of a line. -/
theorem flush_idle (h : s.streams.pipe = {}) : s.flush = (.ok .goOn, s) := by
  have hout : s.streams.pipe.output = [] := by rw [h]
  simp only [flush, Pipe.flush, hout, Sink.write_nil]
  rw [show ({ s.streams.pipe with output := [] } : Pipe) = s.streams.pipe by rw [h]]
  rfl

/-- The last stage's end is the end of the line: nothing is left to flush. -/
theorem runStages_singleton {answer : Answer Signal} (hrun : s.runStage m ⟨index, total⟩ stage = answer)
    (h : answer.1 = .ok .goOn → answer.2.streams.pipe = {}) : runStages m total index s [stage] = answer := by
  obtain ⟨result, s'⟩ := answer
  simp only [runStages, hrun]
  split
  · rename_i heq
    cases heq
    exact flush_idle (h rfl)
  · rfl

theorem runStages_cons_goOn {s' : Session} (hrun : s.runStage m ⟨index, total⟩ stage = (.ok .goOn, s'))
    (rest : List Stage) : runStages m total index s (stage :: rest) = runStages m total (index + 1) s' rest := by
  rw [runStages, hrun]

theorem runStages_cons_stop (h : (s.runStage m ⟨index, total⟩ stage).1 ≠ .ok .goOn) (rest : List Stage) :
    runStages m total index s (stage :: rest) = s.runStage m ⟨index, total⟩ stage := by
  rw [runStages]
  split
  · rename_i heq
    exact absurd (congrArg Prod.fst heq) h
  · rfl

theorem runStages_eq (stages : List Stage) :
    ∀ (flow : Flow) (index : Nat) (left : Bytes), flow.outcome = .ok .goOn → stages ≠ [] →
      index + stages.length = total →
      ((stages.zipIdx index).foldl (Flow.step m s.directory total) flow).Ends s
        (runStages m total index (s.within flow ⟨flow.bytes, left⟩) stages) := by
  induction stages with
  | nil => intro flow index left _ hne; contradiction
  | cons stage rest ih =>
    intro flow index left hflow _ hlen
    rw [List.zipIdx_cons, List.foldl_cons]
    by_cases hrest : rest = []
    · subst hrest
      have hend := runStage_last left hflow hlen (rfl : flow.step m s.directory total (stage, index) = _)
      rw [runStages_singleton rfl hend.2]
      exact hend
    · have hpos := List.length_pos_iff.mpr hrest
      rw [List.length_cons] at hlen
      rcases runStage_inner left hflow (show index + 1 < total by omega)
        (rfl : flow.step m s.directory total (stage, index) = _) with ⟨hgo, hrun⟩ | ⟨hstop, hend⟩
      · rw [runStages_cons_goOn hrun]
        exact ih _ (index + 1) [] hgo hrest (by omega)
      · rw [runStages_cons_stop (ends_stays_stopped hend hstop), foldl_of_stop hstop]
        exact hend

theorem chain_of_ends {stages : List Stage} (h : flow.Ends s (runStages m stages.length 0 s stages)) :
    s.chain m stages = flow.finish s := by
  rw [← h.1, chain]
  split
  · rename_i s' heq
    rw [heq] at h ⊢
    rw [show s'.setPipe {} = s' by rw [← h.2 rfl]; rfl]
  · rename_i result s' _ heq
    rw [heq]

/-- With several stages, the fold leaves the source alone. -/
theorem foldl_source (htotal : total ≠ 1) (numbered : List (Stage × Nat)) (flow : Flow) :
    (numbered.foldl (Flow.step m s.directory total) flow).source = flow.source := by
  induction numbered generalizing flow with
  | nil => rfl
  | cons x rest ih =>
    rw [List.foldl_cons, ih]
    unfold Flow.step Flow.input
    rw [if_neg htotal]
    split
    · obtain ⟨left, hleft⟩ :=
        effect_rest_upstream m s.directory ⟨x.2, total⟩ flow.vars flow.bytes x.1
      simp only [hleft, Flow.sourceAfter]
    · rfl

theorem finish_source : (flow.finish s).2.streams.source = flow.source := by
  unfold Flow.finish
  repeat' split
  all_goals rfl

/-- A chain is the fold of its stages: the result, the variables, the use of the source and the
bytes printed are those of functions one after the other, and the pipe is left empty. If there are
several stages, none of them reads the source. -/
theorem chain_eq_fold (s : Session) (m : Machine) (stages : List Stage) (hne : stages ≠ []) :
    s.chain m stages = (Flow.ofStages m s stages).finish s ∧
      (2 ≤ stages.length → (s.chain m stages).2.streams.source = s.streams.source) := by
  have hfold : s.chain m stages = (Flow.ofStages m s stages).finish s :=
    chain_of_ends (runStages_eq stages (Flow.start s) 0 s.streams.pipe.input rfl hne (Nat.zero_add _))
  refine ⟨hfold, fun hlen => ?_⟩
  rw [hfold, finish_source]
  exact foldl_source (by omega) _ (Flow.start s)

/-- Both sides of the pipe hold old bytes, the source fails, and the sink takes two bytes. -/
def stale : Session :=
  { streams :=
      { pipe := { output := [111, 108, 100], input := [33] }
        source := { rest := [120], failure := some Sink.full }
        sink := { room := some 2 } } }

def copyTwice : List Stage := [⟨[.bare "cat".toList]⟩, ⟨[.bare "cat".toList]⟩]

/-- Two copies print what fits of the bytes written last, and then fail. -/
theorem chain_eq_fold_stale :
    copyTwice ≠ [] ∧
      (stale.chain ({} : Host).machine copyTwice =
          (Flow.ofStages ({} : Host).machine stale copyTwice).finish stale ∧
        (2 ≤ copyTwice.length →
          (stale.chain ({} : Host).machine copyTwice).2.streams.source = stale.streams.source)) ∧
      (stale.chain ({} : Host).machine copyTwice).1 = .error (.command Sink.full) ∧
      (stale.chain ({} : Host).machine copyTwice).2.streams.sink.written = [111, 108] :=
  ⟨by decide, chain_eq_fold stale ({} : Host).machine copyTwice (by decide), rfl, by decide⟩

end Session

end LineShell
