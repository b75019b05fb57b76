import LineShell.Host
import LineShell.Proofs.Places
import LineShell.Proofs.Progress

/-!
A chain fails in place. The first stage that does not go on ends it, and the stages after it are
neither run nor looked at: not even an empty one among them is reported.

  - `upTo_renumber`: chains of several stages that agree up to a place stand alike there.
  - `chain_stops_alike`: they end alike if a stage before that place ends one of them.
  - `chain_emptyStage_iff`: which chains report an empty stage.
  - `fails_in_place`: both together.
-/

namespace LineShell

namespace Flow

variable {m : Machine} {s : Session} {stages others : List Stage} {index : Nat}

/-- Chains of several stages that agree up to a place stand alike there. -/
theorem upTo_renumber (hstages : stages.length ≠ 1) (hothers : others.length ≠ 1)
    (hagree : others.take index = stages.take index) :
    upTo m s others index = (upTo m s stages index).renumber id others.length := by
  have hsame : (stages.take index).zipIdx.map (Prod.map id id) = (stages.take index).zipIdx := by
    rw [Prod.map_id, List.map_id]
  have hstart : start s = (start s).renumber id others.length := rfl
  rw [upTo, upTo, hagree, ← foldl_renumber hstages hothers, hsame, ← hstart]

theorem upTo_source (h : stages.length ≠ 1) : (upTo m s stages index).source = s.streams.source :=
  Session.foldl_source h _ _

end Flow

/-- A stage reports that it is empty exactly if it is, and it reports its own place. -/
theorem Stage.effect_emptyStage_iff {m : Machine} {directory : Text} {p : Position} {vars : Variables} {input : Input}
    {stage : Stage} {index total : Nat} :
    (stage.effect m directory p vars input).outcome = .error (.emptyStage index total) ↔
      stage.isEmpty = true ∧ p = ⟨index, total⟩ := by
  unfold Stage.effect
  split
  · rename_i hempty
    rw [and_iff_right hempty]
    constructor
    · intro h
      cases h
      rfl
    · rintro rfl
      rfl
  · rename_i hempty
    exact iff_of_false (fun h => Command.effect_error h index total rfl) fun h => hempty h.1

namespace Session

variable {s : Session} {m : Machine} {stages others : List Stage}

/-- Chains that agree up to a stage which ends one of them, and which is the last of neither, complete
the same stages. -/
theorem completed_alike (hstages : s.completed m stages + 1 < stages.length)
    (hothers : s.completed m stages + 1 < others.length)
    (hagree : others.take (s.completed m stages + 1) = stages.take (s.completed m stages + 1)) :
    s.completed m others = s.completed m stages := by
  have hupTo : ∀ n ≤ s.completed m stages + 1,
      Flow.upTo m s others n = (Flow.upTo m s stages n).renumber id others.length := by
    intro n hn
    refine Flow.upTo_renumber (by omega) (by omega) ?_
    have htake := congrArg (List.take n) hagree
    rwa [List.take_take, List.take_take, Nat.min_eq_left hn] at htake
  rcases Nat.lt_trichotomy (s.completed m others) (s.completed m stages) with hless | hsame | hmore
  · have hstop := upTo_completed (show s.completed m others + 1 < others.length by omega)
    rw [hupTo _ (by omega), ne_eq, Flow.renumber_goOn_iff] at hstop
    exact absurd (upTo_goOn hless) hstop
  · exact hsame
  · have hgo := upTo_goOn hmore
    rw [hupTo _ (Nat.le_refl _), Flow.renumber_goOn_iff] at hgo
    exact absurd hgo (upTo_completed hstages)

/-- They end alike, and neither prints anything or reads the source. -/
theorem chain_stops_alike (hstages : s.completed m stages + 1 < stages.length)
    (hothers : s.completed m stages + 1 < others.length)
    (hagree : others.take (s.completed m stages + 1) = stages.take (s.completed m stages + 1)) :
    (s.chain m stages).1 ≠ .ok .goOn ∧
      (s.chain m others).1 = (s.chain m stages).1.mapError (.renumber id others.length) ∧
      (s.chain m others).2 = (s.chain m stages).2 ∧
      (s.chain m stages).2.streams.sink = s.streams.sink ∧
      (s.chain m stages).2.streams.source = s.streams.source := by
  have hstop := upTo_completed hstages
  have hupTo : Flow.upTo m s others (s.completed m stages + 1) =
      (Flow.upTo m s stages (s.completed m stages + 1)).renumber id others.length :=
    Flow.upTo_renumber (by omega) (by omega) hagree
  have hotherStop : (Flow.upTo m s others (s.completed m stages + 1)).outcome ≠ .ok .goOn := by
    rw [hupTo]
    exact mt Flow.renumber_goOn_iff.mp hstop
  rw [chain_of_upTo (Nat.lt_of_succ_lt hstages) hstop, chain_of_upTo (Nat.lt_of_succ_lt hothers) hotherStop, hupTo]
  exact ⟨hstop, rfl, rfl, rfl, Flow.upTo_source (by omega)⟩

theorem chain_emptyStage_iff {index total : Nat} :
    (s.chain m stages).1 = .error (.emptyStage index total) ↔
      total = stages.length ∧ index ≤ s.completed m stages ∧
        ∃ stage, stages[index]? = some stage ∧ ∀ word ∈ stage.words, word.isBlank = true := by
  have hempty : (.error (.emptyStage index total) : Except LineError Signal) ≠ .ok .goOn := nofun
  rw [chain_ends_iff hempty nofun nofun]
  simp only [Flow.effectAt, Stage.effect_emptyStage_iff, Stage.isEmpty, List.all_eq_true, Position.mk.injEq]
  constructor
  · rintro ⟨_, stage, hstage, hreached, hblank, rfl, rfl⟩
    exact ⟨rfl, hreached, stage, hstage, hblank⟩
  · rintro ⟨rfl, hreached, stage, hstage, hblank⟩
    exact ⟨index, stage, hstage, hreached, hblank, rfl, rfl⟩

/-- A chain fails in place. If its first stage that does not go on is not the last one, then every chain
that agrees with it up to that stage, and goes on beyond it, ends at the same stage and in the same way:
it says the same, but for the number of stages in the report of an empty one, and leaves the same
session, with the sink and the source untouched. An empty stage is reported exactly by the chains that
come to it, with its place and the number of stages. -/
theorem fails_in_place (s : Session) (m : Machine) :
    (∀ stages others index, s.completed m stages = index → index + 1 < stages.length → index + 1 < others.length →
      others.take (index + 1) = stages.take (index + 1) →
        s.completed m others = index ∧
          (s.chain m stages).1 ≠ .ok .goOn ∧
          (s.chain m others).1 = (s.chain m stages).1.mapError (.renumber id others.length) ∧
          (s.chain m others).2 = (s.chain m stages).2 ∧
          (s.chain m stages).2.streams.sink = s.streams.sink ∧
          (s.chain m stages).2.streams.source = s.streams.source) ∧
      ∀ stages index total, (s.chain m stages).1 = .error (.emptyStage index total) ↔
        total = stages.length ∧ index ≤ s.completed m stages ∧
          ∃ stage, stages[index]? = some stage ∧ ∀ word ∈ stage.words, word.isBlank = true := by
  refine ⟨?_, fun stages index total => chain_emptyStage_iff⟩
  rintro stages others _ rfl hstages hothers hagree
  exact ⟨completed_alike hstages hothers hagree, chain_stops_alike hstages hothers hagree⟩

def gapSecond : List Stage := [⟨[.bare "x".toList, .bare ['='], .bare ['1']]⟩, ⟨[.bare [' ']]⟩]

/-- The stage of blanks ends both chains. The second one has another empty stage behind it, and a call of
`exit`, which are not looked at. -/
theorem fails_in_place_gap :
    let m := ({} : Host).machine
    let stages := gapSecond ++ [⟨[.bare "cat".toList]⟩]
    let others := gapSecond ++ [⟨[]⟩, ⟨[.bare "exit".toList]⟩]
    completed {} m stages = 1 ∧ completed {} m others = 1 ∧ others.take 2 = stages.take 2 ∧
      (({} : Session).chain m stages).1 = .error (.emptyStage 1 3) ∧
      (({} : Session).chain m others).1 = .error (.emptyStage 1 4) ∧
      (({} : Session).chain m others).2 = (({} : Session).chain m stages).2 ∧
      (({} : Session).chain m stages).2.vars = ⟨[("x".toList, ['1'])]⟩ := by
  intro m stages others
  obtain ⟨halike, hempty⟩ := fails_in_place {} m
  have hone : completed {} m stages = 1 := by decide +kernel
  have hagree : others.take 2 = stages.take 2 := by decide
  obtain ⟨hsame, -, hreport, hsession, -, -⟩ := halike stages others 1 hone (by decide) (by decide) hagree
  have hstages : (({} : Session).chain m stages).1 = .error (.emptyStage 1 3) := by
    rw [hempty, hone]
    exact ⟨rfl, Nat.le_refl 1, ⟨[.bare [' ']]⟩, rfl, by decide⟩
  refine ⟨hone, hsame, hagree, hstages, ?_, hsession, rfl⟩
  rw [hreport, hstages]
  rfl

end Session

end LineShell
