import LineShell.Host
import LineShell.Proofs.History

/-!
The place of a stage in its chain. Among several stages the place decides nothing but who prints, and
it is seen only in the report of an empty stage. So a fold may be moved to other places, and a stage
that passes on what it reads may be put anywhere.

  - `Stage.effect_renumber` / `step_renumber` / `foldl_renumber`: at other places, a stage and a fold
    give the same, up to the places in that report.
  - `step_copy`: `cat` without arguments is a step that changes nothing.
  - `chain_insert_copy`: a chain with that stage put in is the chain without it.
-/

namespace LineShell

/-- The same error, in a line of `total` stages whose places are these. -/
def LineError.renumber (place : Nat → Nat) (total : Nat) : LineError → LineError
  | .emptyStage index _ => .emptyStage (place index) total
  | e => e

theorem LineError.renumber_of_ne {e : LineError} (h : ∀ index total, e ≠ .emptyStage index total)
    (place : Nat → Nat) (total : Nat) : e.renumber place total = e := by
  cases e with
  | emptyStage index total => exact absurd rfl (h index total)
  | _ => rfl

/-! ## A stage at another place -/

variable {m : Machine} {directory : Text} {vars : Variables} {input : Input}

theorem Command.reply_error {name : Text} {arguments : List Text} {rest : Input} {e : LineError}
    (h : Command.reply m directory name arguments input = (.error e, rest)) (index total : Nat) :
    e ≠ .emptyStage index total := by
  rcases reply_error_cases h with rfl | ⟨cause, rfl⟩
  · nofun
  · nofun

theorem Command.effect_error {c : Command} {e : LineError} (h : (c.effect m directory vars input).outcome = .error e)
    (index total : Nat) : e ≠ .emptyStage index total := by
  match c with
  | .assign name value => cases h
  | .call [] => cases h
  | .call (name :: arguments) =>
    rw [Command.effect] at h
    rcases hreply : Command.reply m directory name arguments input with ⟨cause | reply, rest⟩
    · rw [hreply] at h
      cases h
      exact reply_error hreply index total
    · rw [hreply] at h
      cases h

def Effect.renumber (place : Nat → Nat) (total : Nat) (e : Effect) : Effect :=
  { e with outcome := e.outcome.mapError (.renumber place total) }

theorem Effect.renumber_of_ne {e : Effect}
    (h : ∀ error, e.outcome = .error error → ∀ index total, error ≠ .emptyStage index total) (place : Nat → Nat)
    (total : Nat) : e.renumber place total = e := by
  rcases e with ⟨error | signal, vars, output, rest⟩
  · have hkept : error.renumber place total = error := LineError.renumber_of_ne (h error rfl) place total
    show Effect.mk (.error (error.renumber place total)) vars output rest = _
    rw [hkept]
  · rfl

/-- A stage gives the same at any place, but for the report that it is empty. -/
theorem Stage.effect_renumber (place : Nat → Nat) (index total newTotal : Nat) (stage : Stage) :
    stage.effect m directory ⟨place index, newTotal⟩ vars input =
      (stage.effect m directory ⟨index, total⟩ vars input).renumber place newTotal := by
  unfold Stage.effect
  split
  · rfl
  · rw [Effect.renumber_of_ne fun _ => Command.effect_error]

namespace Flow

variable {flow : Flow} {total newTotal : Nat} {place : Nat → Nat}

def renumber (place : Nat → Nat) (total : Nat) (flow : Flow) : Flow :=
  { flow with outcome := flow.outcome.mapError (.renumber place total) }

theorem renumber_goOn_iff : (flow.renumber place total).outcome = .ok .goOn ↔ flow.outcome = .ok .goOn := by
  rcases flow with ⟨_ | signal, _, _, _⟩
  · exact iff_of_false nofun nofun
  · rfl

theorem input_several (h : total ≠ 1) (flow : Flow) : flow.input total = .upstream flow.bytes := by
  rw [input, if_neg h]

theorem step_renumber (htotal : total ≠ 1) (hnew : newTotal ≠ 1) (stage : Stage) (index : Nat) :
    (flow.renumber place newTotal).step m directory newTotal (stage, place index) =
      (flow.step m directory total (stage, index)).renumber place newTotal := by
  by_cases hgo : flow.outcome = .ok .goOn
  · have hnewgo : (flow.renumber place newTotal).outcome = .ok .goOn := renumber_goOn_iff.mpr hgo
    simp only [step, hgo, hnewgo, input_several htotal, input_several hnew]
    rw [Stage.effect_renumber place index total newTotal]
    rfl
  · rw [step_of_stop hgo, step_of_stop (mt renumber_goOn_iff.mp hgo)]

theorem foldl_renumber (htotal : total ≠ 1) (hnew : newTotal ≠ 1) (numbered : List (Stage × Nat)) (flow : Flow) :
    (numbered.map (Prod.map id place)).foldl (step m directory newTotal) (flow.renumber place newTotal) =
      (numbered.foldl (step m directory total) flow).renumber place newTotal := by
  induction numbered generalizing flow with
  | nil => rfl
  | cons x rest ih =>
    rw [List.map_cons, List.foldl_cons, List.foldl_cons, ← ih]
    exact congrArg (List.foldl _ · _) (step_renumber htotal hnew x.1 x.2)

/-- The end of a fold does not know the places of its stages. -/
theorem finish_renumber (s : Session) :
    (flow.renumber place newTotal).finish s =
      ((flow.finish s).1.mapError (.renumber place newTotal), (flow.finish s).2) := by
  by_cases hgo : flow.outcome = .ok .goOn
  · have hbytes : (flow.renumber place newTotal).bytes = flow.bytes := rfl
    rw [finish, finish, renumber_goOn_iff.mpr hgo, hgo, hbytes]
    rcases s.streams.sink.write flow.bytes with ⟨cause | _, sink⟩
    · rfl
    · rfl
  · rw [finish_of_stop hgo, finish_of_stop (mt renumber_goOn_iff.mp hgo)]
    rfl

end Flow

/-! ## A stage that passes on what it reads -/

def Stage.copy : Stage := ⟨[.bare Builtin.Cat.name]⟩

namespace Flow

variable {directory : Text} {total : Nat}

theorem effect_copy (m : Machine) (p : Position) (vars : Variables) (data : Bytes) :
    Stage.copy.effect m directory p vars (.upstream data) =
      { outcome := .ok .goOn, vars, output := data, rest := .upstream [] } := by
  rfl

/-- Among several stages it is a step that changes nothing. -/
theorem step_copy (h : total ≠ 1) (m : Machine) (flow : Flow) (index : Nat) :
    flow.step m directory total (Stage.copy, index) = flow := by
  by_cases hgo : flow.outcome = .ok .goOn
  · simp only [step, hgo, input_several h, effect_copy, sourceAfter]
    rw [← hgo]
  · exact step_of_stop hgo _

/-- Where a stage stands when one more has been put in at `gap`. -/
def moved (gap index : Nat) : Nat := if index < gap then index else index + 1

/-- Stages in a row, each at its new place. -/
theorem map_zipIdx_of_place {place : Nat → Nat} (stages : List Stage) :
    ∀ i j, (∀ n < stages.length, place (i + n) = j + n) →
      (stages.zipIdx i).map (Prod.map id place) = stages.zipIdx j := by
  induction stages with
  | nil => exact fun _ _ _ => rfl
  | cons stage rest ih =>
    intro i j h
    have hfirst : place i = j := h 0 (Nat.zero_lt_succ _)
    rw [List.zipIdx_cons, List.zipIdx_cons, List.map_cons, ih (i + 1) (j + 1)]
    · rw [Prod.map, hfirst]
      rfl
    · intro n hn
      rw [Nat.add_right_comm, Nat.add_right_comm j]
      exact h (n + 1) (Nat.succ_lt_succ hn)

theorem zipIdx_insert (before after : List Stage) :
    (before ++ after).zipIdx.map (Prod.map id (moved before.length)) =
      before.zipIdx ++ after.zipIdx (before.length + 1) := by
  rw [List.zipIdx_append, List.map_append, Nat.zero_add]
  congr 1
  · refine map_zipIdx_of_place before 0 0 fun n hn => ?_
    rw [moved, Nat.zero_add, if_pos hn]
  · refine map_zipIdx_of_place after before.length (before.length + 1) fun n _ => ?_
    rw [moved, if_neg (by omega)]
    omega

/-- The fold with the stage put in is the fold without it. -/
theorem ofStages_insert (m : Machine) (s : Session) {before after : List Stage}
    (h : 2 ≤ (before ++ after).length) :
    ofStages m s (before ++ Stage.copy :: after) =
      (ofStages m s (before ++ after)).renumber (moved before.length) (before ++ Stage.copy :: after).length := by
  have hlonger : 2 ≤ (before ++ Stage.copy :: after).length := by
    rw [List.length_append, List.length_cons]
    rw [List.length_append] at h
    omega
  have hstart : start s = (start s).renumber (moved before.length) (before ++ Stage.copy :: after).length := rfl
  rw [ofStages, ofStages, ← foldl_renumber (by omega) (by omega), zipIdx_insert, ← hstart, List.zipIdx_append,
    List.zipIdx_cons, List.foldl_append, List.foldl_append, List.foldl_cons, step_copy (by omega), Nat.zero_add]

end Flow

namespace Session

/-- A stage `cat` changes nothing wherever it is put into a chain of several stages: neither what the
chain says, but for the places of its stages, nor what it prints, its variables and its source. -/
theorem chain_insert_copy (s : Session) (m : Machine) (before after : List Stage)
    (h : 2 ≤ (before ++ after).length) :
    (s.chain m (before ++ Stage.copy :: after)).1 =
        (s.chain m (before ++ after)).1.mapError
          (.renumber (Flow.moved before.length) (before ++ Stage.copy :: after).length) ∧
      (s.chain m (before ++ Stage.copy :: after)).2 = (s.chain m (before ++ after)).2 := by
  have hne : before ++ after ≠ [] := List.ne_nil_of_length_pos (Nat.lt_of_lt_of_le Nat.zero_lt_two h)
  rw [chain_eq_finish s m (List.append_ne_nil_of_right_ne_nil _ (List.cons_ne_nil _ _)), chain_eq_finish s m hne,
    Flow.ofStages_insert m s h, Flow.finish_renumber]
  exact ⟨rfl, rfl⟩

/-- The pipe holds bytes that are no text, and the sink takes two bytes. -/
def torn : Session := { streams := { pipe := { output := [255, 10, 97] }, sink := { room := some 2 } } }

def sorting : Host :=
  { tree := ({} : Host.Tree).add (Host.location "/bin/sort") (.program .sort), searchPath := some "/bin".toList }

def sortStage : Stage := ⟨[.bare "sort".toList]⟩

/-- Put behind two programs, the copy prints what they print, as far as there is room; put before an
empty stage, it moves the place that is reported. -/
theorem chain_insert_copy_torn :
    let m := sorting.machine
    2 ≤ ([sortStage, sortStage] ++ []).length ∧ 2 ≤ ([sortStage] ++ [(⟨[]⟩ : Stage)]).length ∧
      (torn.chain m ([sortStage, sortStage] ++ [Stage.copy])).1 = .error (.command Sink.full) ∧
      (torn.chain m ([sortStage, sortStage] ++ [Stage.copy])).2.streams.sink.written = [97, 10] ∧
      (torn.chain m ([sortStage] ++ Stage.copy :: [⟨[]⟩])).1 = .error (.emptyStage 2 3) := by
  intro m
  have hlast := chain_insert_copy torn m [sortStage, sortStage] [] (by decide)
  have hinner := chain_insert_copy torn m [sortStage] [⟨[]⟩] (by decide)
  have hfull : (torn.chain m ([sortStage, sortStage] ++ [])).1 = .error (.command Sink.full) := rfl
  have hprinted : (torn.chain m ([sortStage, sortStage] ++ [])).2.streams.sink.written = [97, 10] := by
    decide +kernel
  have hempty : (torn.chain m ([sortStage] ++ [⟨[]⟩])).1 = .error (.emptyStage 1 2) := rfl
  refine ⟨by decide, by decide, ?_, ?_, ?_⟩
  · rw [hlast.1, hfull]
    rfl
  · rw [hlast.2, hprinted]
  · rw [hinner.1, hempty]
    rfl

end Session

end LineShell
