import LineShell.Host
import LineShell.Proofs.History

/-!
A full sink truncates what a session prints, and does nothing else. A line prints at its end, and
nothing that a session does later depends on what the sink has taken.

  - `Sink.write_write`: two writes leave what one write of both leaves, whether they fit or not.
  - `chain_prints` / `line_prints`: an operation is the same over every sink, up to one write at its
    end.
  - `through_prints`: so is any sequence of lines.
  - `truncated_exact`: what that says of a sink with room for so many bytes.
-/

namespace LineShell

/-! ## Writes -/

namespace Sink

theorem write_write (sink : Sink) (first second : Bytes) :
    ((sink.write first).2.write second).2 = (sink.write (first ++ second)).2 := by
  rcases sink with ⟨_ | room, written⟩
  · simp only [write, List.append_assoc]
  · simp only [write, List.append_assoc, List.take_append, List.length_append, Nat.sub_sub]

/-- What an operation says that gives `result` and has these bytes to print. -/
def settle (sink : Sink) (output : Bytes) (result : Except LineError Signal) : Except LineError Signal :=
  match (sink.write output).1 with
  | .ok () => result
  | .error cause => .error (.command cause)

theorem settle_nil (sink : Sink) (result : Except LineError Signal) : sink.settle [] result = result := by
  rw [settle, write_nil]

/-- With room for so many bytes, it says `result` if the bytes to print are no more. -/
theorem settle_room (room : Nat) (written output : Bytes) (result : Except LineError Signal) :
    (⟨some room, written⟩ : Sink).settle output result =
      if output.length ≤ room then result else .error (.command full) := by
  by_cases hfits : output.length ≤ room
  · simp only [settle, write, if_pos hfits]
  · simp only [settle, write, if_neg hfits]

end Sink

/-! ## Operations over any sink -/

/-- The bytes that a fold prints at its end: those of its last stage, if all stages went on. -/
def Flow.printed (flow : Flow) : Bytes :=
  match flow.outcome with
  | .ok .goOn => flow.bytes
  | _ => []

theorem Flow.printed_of_goOn {flow : Flow} (h : flow.outcome = .ok .goOn) : flow.printed = flow.bytes := by
  rw [printed, h]

theorem Flow.printed_of_stop {flow : Flow} (h : flow.outcome ≠ .ok .goOn) : flow.printed = [] := by
  unfold printed
  split
  · contradiction
  · rfl

namespace Session

variable {s : Session} (m : Machine)

/-- All that the end of a fold has to do with the sink is one write. -/
theorem finish_prints (flow : Flow) (sink : Sink) :
    flow.finish (s.setSink sink) =
      (sink.settle flow.printed flow.outcome, (flow.leave s {}).setSink (sink.write flow.printed).2) := by
  by_cases hgo : flow.outcome = .ok .goOn
  · have hsink : (s.setSink sink).streams.sink = sink := rfl
    rw [Flow.printed_of_goOn hgo, Flow.finish, hgo, hsink, Sink.settle]
    rcases sink.write flow.bytes with ⟨cause | _, after⟩
    · rfl
    · rfl
  · rw [Flow.finish_of_stop hgo, Flow.printed_of_stop hgo, Sink.settle_nil, Sink.write_nil]
    rfl

theorem chain_prints (h : s.streams.pipe = {}) (stages : List Stage) :
    ∃ result output, ∃ next : Session, next.streams.pipe = {} ∧
      ∀ sink, (s.setSink sink).chain m stages = (sink.settle output result, next.setSink (sink.write output).2) := by
  by_cases hne : stages = []
  · subst hne
    refine ⟨.ok .goOn, [], s, h, fun sink => ?_⟩
    have hidle : (s.setSink sink).streams.pipe.output = [] := congrArg Pipe.output h
    rw [chain_nil, hidle, Sink.write_nil, setOutput_nil hidle, Sink.settle_nil, Sink.write_nil]
    rfl
  · refine ⟨(Flow.ofStages m s stages).outcome, (Flow.ofStages m s stages).printed,
      (Flow.ofStages m s stages).leave s {}, rfl, fun sink => ?_⟩
    rw [chain_eq_finish _ m hne]
    exact finish_prints (Flow.ofStages m s stages) sink

theorem line_prints (h : s.streams.pipe = {}) (text : Text) :
    ∃ result output, ∃ next : Session, next.streams.pipe = {} ∧
      ∀ sink, (s.setSink sink).line m text = (sink.settle output result, next.setSink (sink.write output).2) := by
  have hvars : ∀ sink, (s.setSink sink).vars = s.vars := fun _ => rfl
  cases hline : Stage.ofLine s.vars text with
  | error e =>
    refine ⟨.error e, [], s, h, fun sink => ?_⟩
    rw [line_rejected m (hvars sink ▸ hline), Sink.settle_nil, Sink.write_nil]
  | ok stages =>
    obtain ⟨result, output, next, hpipe, hprints⟩ := chain_prints m h stages
    refine ⟨result, output, next, hpipe, fun sink => ?_⟩
    rw [line_accepted m (hvars sink ▸ hline), hprints]

/-! ## Sequences of lines -/

/-- Lines one after the other, each with the files and programs that there are at its time. -/
def script (lines : List (Machine × Text)) : List Event := lines.map fun l => .perform l.1 (.line l.2)

/-- A sequence of lines leaves the same over every sink, up to one write of all that it prints. -/
theorem through_prints (h : s.streams.pipe = {}) (lines : List (Machine × Text)) :
    ∃ printed, ∃ next : Session, next.streams.pipe = {} ∧
      ∀ sink, (s.setSink sink).through (script lines) = next.setSink (sink.write printed).2 := by
  induction lines generalizing s with
  | nil => exact ⟨[], s, h, fun sink => by rw [Sink.write_nil]; rfl⟩
  | cons l lines ih =>
    obtain ⟨result, output, middle, hmiddle, hline⟩ := line_prints l.1 h l.2
    obtain ⟨printed, next, hnext, hrest⟩ := ih hmiddle
    refine ⟨output ++ printed, next, hnext, fun sink => ?_⟩
    have hfirst : (s.setSink sink).step (.perform l.1 (.line l.2)) = middle.setSink (sink.write output).2 :=
      congrArg Prod.snd (hline sink)
    show ((s.setSink sink).step (.perform l.1 (.line l.2))).through (script lines) = _
    rw [hfirst, hrest, Sink.write_write]

/-- A full sink truncates. Run the same lines over a sink that takes so many bytes and over one that
takes all. The first one has the first bytes of what the second one has got, as many as there was room
for; the variables and the source are the same in both. Each further line says the same in both, unless
its output no longer fits. -/
theorem truncated_exact (s : Session) (h : s.streams.pipe = {}) (lines : List (Machine × Text)) (room : Nat) :
    let limited := s.through (.room (some room) :: script lines)
    let endless := s.through (.room none :: script lines)
    ∃ printed, endless.streams.sink.written = s.streams.sink.written ++ printed ∧
      limited.streams.sink.written = s.streams.sink.written ++ printed.take room ∧
      limited.vars = endless.vars ∧ limited.streams.source = endless.streams.source ∧
      ∀ m text, ∃ output,
        (endless.line m text).2.streams.sink.written = endless.streams.sink.written ++ output ∧
          (limited.line m text).1 =
            if output.length ≤ room - printed.length then (endless.line m text).1
            else .error (.command Sink.full) := by
  intro limited endless
  obtain ⟨printed, next, hpipe, hthrough⟩ := through_prints h lines
  have hlimited : limited = next.setSink ⟨some (room - printed.length), s.streams.sink.written ++ printed.take room⟩ :=
    hthrough { s.streams.sink with room := some room }
  have hendless : endless = next.setSink ⟨none, s.streams.sink.written ++ printed⟩ :=
    hthrough { s.streams.sink with room := none }
  rw [hlimited, hendless]
  refine ⟨printed, rfl, rfl, rfl, rfl, fun m text => ?_⟩
  obtain ⟨result, output, after, -, hline⟩ := line_prints m hpipe text
  refine ⟨output, ?_, ?_⟩
  · rw [hline]
    rfl
  · rw [hline, hline, Sink.settle_room]
    rfl

def chatter : List (Machine × Text) :=
  ["echo ab", "x=1 | cat", "nosuch | cat", "echo c"].map fun text => (({} : Host).machine, text.toList)

/-- Over a sink with room for four bytes the last of them prints one byte and fails. The variable is
bound. A further line that prints fails, one that prints nothing does not. -/
theorem truncated_exact_chatter :
    let m := ({} : Host).machine
    let limited := ({} : Session).through (.room (some 4) :: script chatter)
    let endless := ({} : Session).through (.room none :: script chatter)
    ({} : Session).streams.pipe = {} ∧ limited.streams.sink.written = [97, 98, 10, 99] ∧
      limited.vars = ⟨[("x".toList, ['1'])]⟩ ∧
      (limited.line m "echo $x".toList).1 = .error (.command Sink.full) ∧
      (limited.line m "y=$x".toList).1 = (endless.line m "y=$x".toList).1 := by
  obtain ⟨printed, hendless, hlimited, hsame, -, hline⟩ := truncated_exact {} rfl chatter 4
  have hall : (({} : Session).through (.room none :: script chatter)).streams.sink.written = [97, 98, 10, 99, 10] := by
    decide +kernel
  have hvars : (({} : Session).through (.room none :: script chatter)).vars = ⟨[("x".toList, ['1'])]⟩ := by
    decide +kernel
  obtain rfl : [97, 98, 10, 99, 10] = printed := hall.symm.trans hendless
  obtain ⟨loud, hloud, hfails⟩ := hline ({} : Host).machine "echo $x".toList
  obtain ⟨silent, hsilent, hgoes⟩ := hline ({} : Host).machine "y=$x".toList
  refine ⟨rfl, hlimited, hsame.trans hvars, ?_, ?_⟩
  · obtain rfl : [49, 10] = loud := by
      refine List.append_cancel_left (Eq.trans ?_ hloud)
      decide +kernel
    rw [hfails]
    exact if_neg (by decide)
  · obtain rfl : [] = silent := by
      refine List.append_cancel_left (Eq.trans ?_ hsilent)
      decide +kernel
    rw [hgoes]
    exact if_pos (Nat.zero_le _)

end Session

end LineShell
