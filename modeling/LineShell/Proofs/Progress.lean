import LineShell.Proofs.Bindings

/-!
How far a chain comes. A stage that is reached goes on or ends the line, and what comes after the
stage that ends it is never looked at.

  - `upTo_goOn` / `upTo_completed`: the fold goes on with the stages that are counted as completed;
    the next one ends it, or is the last one and writes more than the sink takes.
  - `chain_of_upTo` / `chain_of_stop`: a chain ends where its fold does, with the result of that stage.
  - `chain_stop_cases`: where a line that does not go on has ended.
  - `chain_ends_iff`: a line says what no sink can say only if a stage that it reached says so.
-/

namespace LineShell

namespace Flow

variable {m : Machine} {s : Session} {stages : List Stage} {stage : Stage} {index : Nat}

def upTo (m : Machine) (s : Session) (stages : List Stage) (index : Nat) : Flow :=
  (stages.take index).zipIdx.foldl (step m s.directory stages.length) (start s)

/-- What a stage gives at a place of the chain, after the stages before it. -/
def effectAt (m : Machine) (s : Session) (stages : List Stage) (index : Nat) (stage : Stage) : Effect :=
  stage.effect m s.directory ⟨index, stages.length⟩ (upTo m s stages index).vars
    ((upTo m s stages index).input stages.length)

theorem upTo_length (m : Machine) (s : Session) (stages : List Stage) :
    upTo m s stages stages.length = ofStages m s stages := by
  rw [upTo, List.take_length, ofStages]

theorem upTo_succ (h : stages[index]? = some stage) :
    upTo m s stages (index + 1) = (upTo m s stages index).step m s.directory stages.length (stage, index) := by
  have hlt : index < stages.length := (List.getElem?_eq_some_iff.mp h).1
  have hplace : 0 + (stages.take index).length = index := by
    rw [Nat.zero_add, List.length_take_of_le (Nat.le_of_lt hlt)]
  rw [upTo, List.take_add_one, h, List.zipIdx_append, List.foldl_append, hplace]
  rfl

/-- As long as the fold goes on, it goes on as its next stage says. -/
theorem outcome_upTo_succ (h : stages[index]? = some stage) (hgo : (upTo m s stages index).outcome = .ok .goOn) :
    (upTo m s stages (index + 1)).outcome = (effectAt m s stages index stage).outcome := by
  rw [upTo_succ h, step, hgo]
  rfl

/-- What comes after the end of the fold has no part in it. -/
theorem upTo_of_stop {later : Nat} (hle : index ≤ later) (h : (upTo m s stages index).outcome ≠ .ok .goOn) :
    upTo m s stages later = upTo m s stages index := by
  obtain ⟨more, rfl⟩ := Nat.exists_eq_add_of_le hle
  rw [upTo, List.take_add, List.zipIdx_append, List.foldl_append]
  exact Session.foldl_of_stop h _

theorem ofStages_of_stop (hlt : index < stages.length) (h : (upTo m s stages (index + 1)).outcome ≠ .ok .goOn) :
    ofStages m s stages = upTo m s stages (index + 1) := by
  rw [← upTo_length]
  exact upTo_of_stop hlt h

end Flow

namespace Session

/-! ## The stages that go on -/

variable {s s' : Session} {m : Machine} {flow : Flow} {stage : Stage} {index total : Nat} {stages : List Stage}

/-- A chain has completed `count` of the stages that are left and no more, and has ended so. -/
structure Comes (s : Session) (m : Machine) (total index : Nat) (flow : Flow) (stages : List Stage) (count : Nat)
    (answer : Answer Signal) : Prop where
  bound : count ≤ stages.length
  goOn : ∀ n ≤ count,
    ((stages.take n).zipIdx index |>.foldl (Flow.step m s.directory total) flow).outcome = .ok .goOn
  /-- The last stage may also end the line because the sink does not take its bytes. -/
  stops : count + 1 < stages.length →
    ((stages.take (count + 1)).zipIdx index |>.foldl (Flow.step m s.directory total) flow).outcome ≠ .ok .goOn
  done : answer.1 = .ok .goOn ↔ count = stages.length

theorem comes_stop {answer : Answer Signal} (hflow : flow.outcome = .ok .goOn) {rest : List Stage}
    (hstop : rest ≠ [] → (flow.step m s.directory total (stage, index)).outcome ≠ .ok .goOn)
    (hanswer : answer.1 ≠ .ok .goOn) : s.Comes m total index flow (stage :: rest) 0 answer where
  bound := Nat.zero_le _
  goOn n hn := by
    obtain rfl : n = 0 := Nat.le_zero.mp hn
    exact hflow
  stops hlt := hstop (List.ne_nil_of_length_pos (Nat.lt_of_succ_lt_succ hlt))
  done := ⟨fun h => absurd h hanswer, nofun⟩

theorem comes_succ {answer : Answer Signal} (hflow : flow.outcome = .ok .goOn) {rest : List Stage} {count : Nat}
    (h : s.Comes m total (index + 1) (flow.step m s.directory total (stage, index)) rest count answer) :
    s.Comes m total index flow (stage :: rest) (count + 1) answer where
  bound := Nat.succ_le_succ h.bound
  goOn n hn := by
    match n with
    | 0 => exact hflow
    | n + 1 => exact h.goOn n (Nat.le_of_succ_le_succ hn)
  stops hlt := h.stops (Nat.lt_of_succ_lt_succ hlt)
  done := h.done.trans Nat.succ_inj.symm

theorem comes_last {answer : Answer Signal} {t : Session} (hflow : flow.outcome = .ok .goOn)
    (hrun : t.runStage m ⟨index, total⟩ stage = answer)
    (hend : (flow.step m s.directory total (stage, index)).Ends s answer) :
    s.Comes m total index flow [stage] (completedFrom m total index t [stage]) answer := by
  by_cases hgo : answer.1 = .ok .goOn
  · have hnext : (flow.step m s.directory total (stage, index)).outcome = .ok .goOn :=
      Classical.byContradiction fun hstop => ends_stays_stopped hend hstop hgo
    obtain ⟨result, t'⟩ := answer
    obtain rfl : result = .ok .goOn := hgo
    rw [completedFrom_cons_goOn hrun]
    refine comes_succ hflow ⟨Nat.le_refl 0, fun n hn => ?_, fun hlt => absurd hlt (Nat.not_lt_zero _), ?_⟩
    · obtain rfl : n = 0 := Nat.le_zero.mp hn
      exact hnext
    · exact iff_of_true rfl rfl
  · rw [completedFrom_cons_stop (by rwa [hrun])]
    exact comes_stop hflow (fun hrest => absurd rfl hrest) hgo

/-- The stages that are counted as completed are those with which the fold goes on. -/
theorem comes_completedFrom (stages : List Stage) : ∀ (flow : Flow) (index : Nat) (left : Bytes),
    flow.outcome = .ok .goOn → stages ≠ [] → index + stages.length = total →
      s.Comes m total index flow stages (completedFrom m total index (s.within flow ⟨flow.bytes, left⟩) stages)
        (runStages m total index (s.within flow ⟨flow.bytes, left⟩) stages) := by
  -- The fold has come to `index`; its bytes are what the session has in the pipe there.
  induction stages with
  | nil => intro flow index left _ hne; contradiction
  | cons stage rest ih =>
    intro flow index left hflow _ hlen
    by_cases hrest : rest = []
    · subst hrest
      have hend := runStage_last left hflow hlen (rfl : flow.step m s.directory total (stage, index) = _)
      rw [runStages_singleton rfl hend.2]
      exact comes_last hflow rfl hend
    · have hpos := List.length_pos_iff.mpr hrest
      rw [List.length_cons] at hlen
      rcases runStage_inner left hflow (show index + 1 < total by omega)
        (rfl : flow.step m s.directory total (stage, index) = _) with ⟨hgo, hrun⟩ | ⟨hstop, hend⟩
      · rw [completedFrom_cons_goOn hrun, runStages_cons_goOn hrun]
        exact comes_succ hflow (ih _ (index + 1) [] hgo hrest (by omega))
      · have hanswer := ends_stays_stopped hend hstop
        rw [completedFrom_cons_stop hanswer, runStages_cons_stop hanswer]
        exact comes_stop hflow (fun _ => hstop) hanswer

theorem comes_completed (s : Session) (m : Machine) (hne : stages ≠ []) :
    s.Comes m stages.length 0 (Flow.start s) stages (s.completed m stages)
      (runStages m stages.length 0 s stages) :=
  comes_completedFrom stages (Flow.start s) 0 s.streams.pipe.input rfl hne (Nat.zero_add _)

theorem completed_le_length (s : Session) (m : Machine) (stages : List Stage) :
    s.completed m stages ≤ stages.length := by
  by_cases hne : stages = []
  · subst hne
    exact Nat.le_refl 0
  · exact (comes_completed s m hne).bound

theorem upTo_goOn (h : index ≤ s.completed m stages) : (Flow.upTo m s stages index).outcome = .ok .goOn := by
  by_cases hne : stages = []
  · subst hne
    rw [Flow.upTo, List.take_nil]
    rfl
  · exact (comes_completed s m hne).goOn index h

/-- The stage after them ends the fold, if it is not the last one. -/
theorem upTo_completed (h : s.completed m stages + 1 < stages.length) :
    (Flow.upTo m s stages (s.completed m stages + 1)).outcome ≠ .ok .goOn :=
  (comes_completed s m (List.ne_nil_of_length_pos (Nat.zero_lt_of_lt h))).stops h

theorem chain_goOn_iff (hne : stages ≠ []) :
    (s.chain m stages).1 = .ok .goOn ↔ s.completed m stages = stages.length := by
  rw [← (comes_completed s m hne).done, chain]
  split
  · rename_i heq
    rw [heq]
  · rename_i heq
    rw [heq]

/-! ## The end of a chain -/

/-- Where the fold has ended, the chain has: what comes after it has no part in anything. -/
theorem chain_of_upTo (hlt : index < stages.length) (h : (Flow.upTo m s stages (index + 1)).outcome ≠ .ok .goOn) :
    s.chain m stages =
      ((Flow.upTo m s stages (index + 1)).outcome, (Flow.upTo m s stages (index + 1)).leave s s.streams.sink) := by
  rw [chain_eq_finish s m (List.ne_nil_of_length_pos (Nat.zero_lt_of_lt hlt)), Flow.ofStages_of_stop hlt h,
    Flow.finish_of_stop h]

/-- A stage that is reached and ends the fold gives the chain its result. -/
theorem chain_of_stop (hstage : stages[index]? = some stage) (hreached : index ≤ s.completed m stages)
    (hstop : (Flow.effectAt m s stages index stage).outcome ≠ .ok .goOn) :
    (s.chain m stages).1 = (Flow.effectAt m s stages index stage).outcome := by
  have houtcome := Flow.outcome_upTo_succ hstage (upTo_goOn hreached)
  rw [chain_of_upTo (List.getElem?_eq_some_iff.mp hstage).1 (by rwa [houtcome]), houtcome]

/-- A chain that does not go on has ended at one of its stages, or at the last one because the sink
does not take its bytes. -/
theorem chain_stop_cases (hne : stages ≠ []) (h : (s.chain m stages).1 ≠ .ok .goOn) :
    (∃ stage, stages[s.completed m stages]? = some stage ∧
        (s.chain m stages).1 = (Flow.effectAt m s stages (s.completed m stages) stage).outcome) ∨
      s.completed m stages + 1 = stages.length ∧
        ∃ cause, (s.chain m stages).1 = .error (.command cause) ∧
          (s.streams.sink.write (Flow.ofStages m s stages).bytes).1 = .error cause := by
  have hlt : s.completed m stages < stages.length :=
    Nat.lt_of_le_of_ne (completed_le_length s m stages) fun hall => h ((chain_goOn_iff hne).mpr hall)
  have hstage := List.getElem?_eq_getElem hlt
  by_cases hgo : (Flow.upTo m s stages (s.completed m stages + 1)).outcome = .ok .goOn
  · right
    have hlast : s.completed m stages + 1 = stages.length :=
      (Nat.lt_or_eq_of_le (Nat.succ_le_of_lt hlt)).resolve_left fun hinner => upTo_completed hinner hgo
    rw [hlast, Flow.upTo_length] at hgo
    rw [chain_eq_finish s m hne] at h ⊢
    rcases Flow.finish_of_goOn (s := s) hgo with ⟨hfinish, _⟩ | hfull
    · exact absurd hfinish h
    · exact ⟨hlast, hfull⟩
  · left
    rw [Flow.outcome_upTo_succ hstage (upTo_goOn (Nat.le_refl _))] at hgo
    exact ⟨_, hstage, chain_of_stop hstage (Nat.le_refl _) hgo⟩

/-- What neither a line that goes on nor a full sink says is said exactly by the chains that reach a
stage that says it. -/
theorem chain_ends_iff {outcome : Except LineError Signal} (hgo : outcome ≠ .ok .goOn)
    (hcommand : ∀ cause, outcome ≠ .error (.command cause)) (htransfer : ∀ cause, outcome ≠ .error (.transfer cause)) :
    (s.chain m stages).1 = outcome ↔
      ∃ index stage, stages[index]? = some stage ∧ index ≤ s.completed m stages ∧
        (Flow.effectAt m s stages index stage).outcome = outcome := by
  constructor
  · intro h
    by_cases hne : stages = []
    · subst hne
      rw [chain_nil] at h
      split at h
      · exact absurd h.symm hgo
      · exact absurd h.symm (htransfer _)
    · rcases chain_stop_cases hne (by rwa [h]) with ⟨stage, hstage, houtcome⟩ | ⟨_, cause, houtcome, _⟩
      · exact ⟨_, stage, hstage, Nat.le_refl _, by rw [← houtcome, h]⟩
      · exact absurd (h.symm.trans houtcome) (hcommand cause)
  · rintro ⟨index, stage, hstage, hreached, rfl⟩
    exact chain_of_stop hstage hreached hgo

end Session

end LineShell
