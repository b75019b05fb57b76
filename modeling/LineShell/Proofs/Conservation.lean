import Mathlib.Data.List.Induction
import LineShell.Proofs.Isolation

/-!
The pipe neither loses bytes nor makes any up, whatever is done with the streams and at whatever
positions. What was written is cut into segments, in order. A flush at the last position sends one to the
sink, a redirect makes one the input of the next stage, and the rest is still in the output.

  - `account`: the segments and the rest, by what was done alone.
  - `after_eq`: all that one use changes.
  - `output_through` / `sink_through` / `input_through` / `source_through`: what a history of uses has changed.
  - `segment_arrives`: every segment is what the output held, and gets to the end it is sent to.
  - `uses_conserve`: all of it for streams that do not fail; and a flush that fails leaves the pipe alone.
-/

namespace LineShell

namespace Streams

inductive Route where
  | sink | input
  deriving DecidableEq, Repr

inductive Use where
  | readBytes (p : Position)
  | readText (p : Position)
  | append (text : Text)
  | write (data : Bytes)
  /-- The stage's own flush, or the one that every writer has: both look at the position. -/
  | flush (p : Position)
  /-- The next stage begins. -/
  | redirect
  deriving DecidableEq, Repr

namespace Use

def written : Use → Bytes
  | append text => Utf8.encode text
  | write data => data
  | _ => []

def route? : Use → Option Route
  | flush p => if p.isLast then some .sink else none
  | redirect => some .input
  | _ => none

def takesInput : Use → Bool
  | readBytes p | readText p => !p.isSingle
  | _ => false

def takesSource : Use → Bool
  | readBytes p | readText p => p.isSingle
  | _ => false

end Use

def after (io : Streams) : Use → Streams
  | .readBytes p => (io.readBytes p).2
  | .readText p => (io.readText p).2
  | .append text => io.append (Utf8.encode text)
  | .write data => io.append data
  | .flush p => (io.flush p).2
  | .redirect => { io with pipe := io.pipe.redirect }

def through (io : Streams) (uses : List Use) : Streams := uses.foldl after io

/-- What one use of a history has sent away. -/
structure Segment where
  /-- How many uses came before it. -/
  place : Nat
  route : Route
  data : Bytes
  deriving DecidableEq, Repr

/-- What became of the bytes written to the output. -/
structure Account where
  segments : List Segment
  /-- Not sent away yet. -/
  left : Bytes
  deriving DecidableEq, Repr

namespace Account

def data (a : Account) : Bytes := a.segments.flatMap Segment.data ++ a.left

def along (a : Account) (route : Route) : Bytes :=
  (a.segments.filter (·.route = route)).flatMap Segment.data

def enter (a : Account) (use : Use) (place : Nat) : Account :=
  match use.route? with
  | some route => ⟨a.segments ++ [⟨place, route, a.left⟩], []⟩
  | none => ⟨a.segments, a.left ++ use.written⟩

end Account

/-- The account of a history, when the output holds `left` at its beginning. -/
def account (left : Bytes) (uses : List Use) : Account :=
  uses.zipIdx.foldl (fun a entry => a.enter entry.1 entry.2) ⟨[], left⟩

/-- The uses that send the output away, each by its place and its route. -/
def departures (uses : List Use) : List (Nat × Route) :=
  uses.zipIdx.filterMap fun entry => entry.1.route?.map (entry.2, ·)

/-- A read at `p` gives these bytes, as they are or as text, and leaves `next`. -/
structure Gives (io : Streams) (p : Position) (data : Bytes) (next : Streams) : Prop where
  bytes : io.readBytes p = (.ok data, next)
  text : io.readText p = (.ok (Utf8.decode data), next)

/-- From `io` to `next`, these bytes have come to the end of the route. -/
def Route.Carries (data : Bytes) (io next : Streams) : Route → Prop
  | sink => next.sink.written = io.sink.written ++ data
  | input => next.pipe.input = data

/-- At its place in the history, the segment is all that the output holds, and it gets where it is sent. -/
def Arrives (io : Streams) (uses : List Use) (segment : Segment) : Prop :=
  ∃ earlier use later, uses = earlier ++ use :: later ∧ earlier.length = segment.place ∧
    use.route? = some segment.route ∧ (io.through earlier).pipe.output = segment.data ∧
    segment.route.Carries segment.data (io.through earlier) ((io.through earlier).after use)

/-- The source comes to an end and the sink takes everything. -/
structure Unfailing (io : Streams) : Prop where
  source : io.source.failure = none
  sink : io.sink.room = none

/-- What holds after a history of uses, when nothing fails. -/
structure Conserved (io : Streams) (uses : List Use) : Prop where
  /-- What was written, in order, is the segments and what is left. -/
  whole : io.pipe.output ++ uses.flatMap Use.written = (account io.pipe.output uses).data
  /-- There is one segment for each use that sends the output away, and no other. -/
  places : (account io.pipe.output uses).segments.map (fun segment => (segment.place, segment.route)) =
    departures uses
  arrives : ∀ segment ∈ (account io.pipe.output uses).segments, Arrives io uses segment
  output : (io.through uses).pipe.output = (account io.pipe.output uses).left
  sink : (io.through uses).sink.written = io.sink.written ++ (account io.pipe.output uses).along .sink
  /-- A stage that is not alone reads what the latest redirect has moved, and only once. -/
  latest : ∀ earlier later, uses = earlier ++ .redirect :: later → .redirect ∉ later →
    ∃ segment ∈ (account io.pipe.output uses).segments,
      segment.place = earlier.length ∧ segment.route = .input ∧
      ∀ p, p.isSingle = false →
        (io.through uses).Gives p (if later.any Use.takesInput then [] else segment.data)
          { io.through uses with pipe := { (io.through uses).pipe with input := [] } }
  /-- Before any redirect, it reads what the input held at the beginning. -/
  initial : .redirect ∉ uses → ∀ p, p.isSingle = false →
    (io.through uses).Gives p (if uses.any Use.takesInput then [] else io.pipe.input)
      { io.through uses with pipe := { (io.through uses).pipe with input := [] } }
  /-- A stage that is alone reads the rest of the source, and only once. -/
  source : ∀ p, p.isSingle = true →
    (io.through uses).Gives p (if uses.any Use.takesSource then [] else io.source.ahead ++ io.source.rest)
      { io.through uses with source := { (io.through uses).source with ahead := [], rest := [] } }
  flushed : ∀ p, p.isLast = true → ((io.through uses).flush p).1 = .ok ()
  kept : ∀ p, p.isLast = false → (io.through uses).flush p = (.ok (), io.through uses)

variable {io : Streams} {use : Use} {uses : List Use}

/-! ## One use -/

theorem Use.written_of_route {route : Route} (h : use.route? = some route) : use.written = [] := by
  cases use with
  | append text => cases h
  | write data => cases h
  | readBytes p => rfl
  | readText p => rfl
  | flush p => rfl
  | redirect => rfl

theorem Account.data_enter (a : Account) (use : Use) (place : Nat) :
    (a.enter use place).data = a.data ++ use.written := by
  unfold enter
  split
  · rename_i route hroute
    simp [Account.data, Use.written_of_route hroute]
  · simp [Account.data]

theorem Account.along_enter (a : Account) (use : Use) (place : Nat) (route : Route) :
    (a.enter use place).along route = a.along route ++ if use.route? = some route then a.left else [] := by
  unfold enter
  split
  · rename_i other hother
    by_cases hroute : other = route
    · simp [along, hother, hroute]
    · simp [along, hother, hroute]
  · rename_i hnone
    simp [along, hnone]

theorem Account.segments_enter (a : Account) (use : Use) (place : Nat) :
    (a.enter use place).segments = a.segments ++ (use.route?.map (⟨place, ·, a.left⟩)).toList := by
  unfold enter
  split
  · rename_i route hroute
    simp [hroute]
  · rename_i hnone
    simp [hnone]

theorem flush_unlimited (h : io.sink.room = none) {p : Position} (hp : p.isLast = true) :
    io.flush p =
      (.ok (), { io with
        pipe := { io.pipe with output := [] }
        sink := { io.sink with written := io.sink.written ++ io.pipe.output } }) := by
  simp only [flush, hp, if_true, Pipe.flush, Sink.write, h]

theorem flush_of_not_last (io : Streams) {p : Position} (hp : p.isLast = false) : io.flush p = (.ok (), io) := by
  simp [flush, hp]

theorem readBytes_source (h : io.source.failure = none) {p : Position} (hp : p.isSingle = true) :
    io.readBytes p =
      (.ok (io.source.ahead ++ io.source.rest),
        { io with source := { io.source with ahead := [], rest := [] } }) := by
  simp [readBytes, hp, Source.readAll, h]

theorem readBytes_input (io : Streams) {p : Position} (hp : p.isSingle = false) :
    io.readBytes p = (.ok io.pipe.input, { io with pipe := { io.pipe with input := [] } }) := by
  simp [readBytes, hp, Pipe.takeInput]

/-- A use changes this, each part for a reason of its own, and nothing else. -/
theorem after_eq (h : io.Unfailing) (use : Use) :
    io.after use =
      { pipe :=
          { output := if use.route?.isSome then [] else io.pipe.output ++ use.written
            input :=
              if use = .redirect then io.pipe.output else if use.takesInput then [] else io.pipe.input }
        source := if use.takesSource then { io.source with ahead := [], rest := [] } else io.source
        sink :=
          { io.sink with
            written := io.sink.written ++ if use.route? = some .sink then io.pipe.output else [] } } := by
  have hread : ∀ p, io.after (.readText p) = io.after (.readBytes p) := fun _ => rfl
  cases use with
  | readBytes p =>
    cases hp : p.isSingle with
    | true => simp [after, readBytes_source h.source hp, hp, Use.route?, Use.written, Use.takesInput, Use.takesSource]
    | false => simp [after, readBytes_input io hp, hp, Use.route?, Use.written, Use.takesInput, Use.takesSource]
  | readText p =>
    rw [hread]
    cases hp : p.isSingle with
    | true => simp [after, readBytes_source h.source hp, hp, Use.route?, Use.written, Use.takesInput, Use.takesSource]
    | false => simp [after, readBytes_input io hp, hp, Use.route?, Use.written, Use.takesInput, Use.takesSource]
  | append text => simp [after, append, Pipe.append, Use.route?, Use.written, Use.takesInput, Use.takesSource]
  | write data => simp [after, append, Pipe.append, Use.route?, Use.written, Use.takesInput, Use.takesSource]
  | flush p =>
    cases hp : p.isLast with
    | true => simp [after, flush_unlimited h.sink hp, hp, Use.route?, Use.takesInput, Use.takesSource]
    | false => simp [after, flush_of_not_last io hp, hp, Use.route?, Use.written, Use.takesInput, Use.takesSource]
  | redirect => simp [after, Pipe.redirect, Use.route?, Use.takesSource]

theorem Unfailing.after (h : io.Unfailing) (use : Use) : (io.after use).Unfailing := by
  rw [after_eq h use]
  refine ⟨?_, h.sink⟩
  show (if use.takesSource then { io.source with ahead := [], rest := [] } else io.source).failure = none
  split
  · exact h.source
  · exact h.source

theorem gives_input (io : Streams) {p : Position} (hp : p.isSingle = false) :
    io.Gives p io.pipe.input { io with pipe := { io.pipe with input := [] } } where
  bytes := readBytes_input io hp
  text := by simp only [readText, readBytes_input io hp, Except.map]

theorem gives_source (h : io.source.failure = none) {p : Position} (hp : p.isSingle = true) :
    io.Gives p (io.source.ahead ++ io.source.rest)
      { io with source := { io.source with ahead := [], rest := [] } } where
  bytes := readBytes_source h hp
  text := by simp only [readText, readBytes_source h hp, Except.map]

/-! ## A history of uses -/

@[simp] theorem through_nil (io : Streams) : io.through [] = io := rfl

@[simp] theorem through_cons (io : Streams) (use : Use) (uses : List Use) :
    io.through (use :: uses) = (io.after use).through uses := rfl

@[simp] theorem through_append (io : Streams) (first second : List Use) :
    io.through (first ++ second) = (io.through first).through second := by
  simp [through]

theorem account_concat (left : Bytes) (uses : List Use) (use : Use) :
    account left (uses ++ [use]) = (account left uses).enter use uses.length := by
  simp [account, List.zipIdx_append]

theorem departures_concat (uses : List Use) (use : Use) :
    departures (uses ++ [use]) = departures uses ++ (use.route?.map (uses.length, ·)).toList := by
  cases h : use.route? with
  | none => simp [departures, List.zipIdx_append, h]
  | some route => simp [departures, List.zipIdx_append, h]

theorem data_account (left : Bytes) (uses : List Use) :
    (account left uses).data = left ++ uses.flatMap Use.written := by
  induction uses using List.reverseRecOn with
  | nil => simp [account, Account.data]
  | append_singleton uses use ih => simp [account_concat, Account.data_enter, ih]

theorem places_account (left : Bytes) (uses : List Use) :
    (account left uses).segments.map (fun segment => (segment.place, segment.route)) = departures uses := by
  induction uses using List.reverseRecOn with
  | nil => rfl
  | append_singleton uses use ih =>
    rw [account_concat, Account.segments_enter, List.map_append, ih, departures_concat]
    cases use.route? with
    | none => rfl
    | some route => rfl

theorem segments_append (left : Bytes) (first second : List Use) {segment : Segment}
    (h : segment ∈ (account left first).segments) : segment ∈ (account left (first ++ second)).segments := by
  induction second using List.reverseRecOn with
  | nil => rwa [List.append_nil]
  | append_singleton second use ih =>
    rw [← List.append_assoc, account_concat, Account.segments_enter]
    exact List.mem_append_left _ ih

theorem Unfailing.through (h : io.Unfailing) (uses : List Use) : (io.through uses).Unfailing := by
  induction uses generalizing io with
  | nil => exact h
  | cons use uses ih => exact ih (h.after use)

theorem through_concat (h : io.Unfailing) (uses : List Use) (use : Use) :
    (io.through (uses ++ [use])).pipe.output =
        (if use.route?.isSome then [] else (io.through uses).pipe.output ++ use.written) ∧
      (io.through (uses ++ [use])).sink.written =
        (io.through uses).sink.written ++ if use.route? = some .sink then (io.through uses).pipe.output else [] := by
  rw [through_append, through_cons, through_nil, after_eq (h.through uses) use]
  exact ⟨rfl, rfl⟩

theorem output_through (h : io.Unfailing) (uses : List Use) :
    (io.through uses).pipe.output = (account io.pipe.output uses).left := by
  induction uses using List.reverseRecOn with
  | nil => rfl
  | append_singleton uses use ih =>
    rw [(through_concat h uses use).1, ih, account_concat, Account.enter]
    cases use.route? with
    | none => rfl
    | some route => rfl

theorem sink_through (h : io.Unfailing) (uses : List Use) :
    (io.through uses).sink.written = io.sink.written ++ (account io.pipe.output uses).along .sink := by
  induction uses using List.reverseRecOn with
  | nil => simp [account, Account.along]
  | append_singleton uses use ih =>
    rw [(through_concat h uses use).2, ih, output_through h, account_concat, Account.along_enter,
      List.append_assoc]

theorem input_through (h : io.Unfailing) {uses : List Use} (hmove : .redirect ∉ uses) :
    (io.through uses).pipe.input = if uses.any Use.takesInput then [] else io.pipe.input := by
  induction uses generalizing io with
  | nil => rfl
  | cons use uses ih =>
    simp only [List.mem_cons, not_or] at hmove
    rw [through_cons, ih (h.after use) hmove.2, after_eq h use, if_neg (Ne.symm hmove.1), List.any_cons]
    cases use.takesInput with
    | true => simp
    | false => rfl

theorem source_through (h : io.Unfailing) (uses : List Use) :
    (io.through uses).source =
      if uses.any Use.takesSource then { io.source with ahead := [], rest := [] } else io.source := by
  induction uses generalizing io with
  | nil => rfl
  | cons use uses ih =>
    rw [through_cons, ih (h.after use), after_eq h use, List.any_cons]
    cases use.takesSource with
    | true => simp
    | false => rfl

theorem Use.eq_redirect_of_route (h : use.route? = some .input) : use = .redirect := by
  cases use with
  | redirect => rfl
  | flush p =>
    simp only [Use.route?] at h
    split at h <;> cases h
  | readBytes p => cases h
  | readText p => cases h
  | append text => cases h
  | write data => cases h

/-- A use that sends the output away sends all of it, and it gets there. -/
theorem after_of_route (h : io.Unfailing) {route : Route} (hroute : use.route? = some route) :
    route.Carries io.pipe.output io (io.after use) := by
  rw [after_eq h use]
  cases route with
  | sink => simp [Route.Carries, hroute]
  | input => simp [Route.Carries, Use.eq_redirect_of_route hroute]

theorem segment_arrives (h : io.Unfailing) (uses : List Use) :
    ∀ segment ∈ (account io.pipe.output uses).segments, Arrives io uses segment := by
  induction uses using List.reverseRecOn with
  | nil => simp [account]
  | append_singleton uses use ih =>
    intro segment hmem
    rw [account_concat, Account.segments_enter, List.mem_append] at hmem
    rcases hmem with hold | hnew
    · obtain ⟨earlier, other, later, rfl, hrest⟩ := ih segment hold
      exact ⟨earlier, other, later ++ [use], by simp, hrest⟩
    -- the last use sends away what is left, which is what the output holds then
    · obtain ⟨route, hroute, rfl⟩ : ∃ route, use.route? = some route ∧
          (⟨uses.length, route, (account io.pipe.output uses).left⟩ : Segment) = segment := by
        simpa using hnew
      refine ⟨uses, use, [], rfl, rfl, hroute, output_through h uses, ?_⟩
      rw [← output_through h uses]
      exact after_of_route (h.through uses) hroute

/-- The latest redirect has moved one of the segments, and that is what can be read. -/
theorem latest_redirect (h : io.Unfailing) {earlier later : List Use} (hlater : .redirect ∉ later) :
    ∃ segment ∈ (account io.pipe.output (earlier ++ .redirect :: later)).segments,
      segment.place = earlier.length ∧ segment.route = .input ∧
        (io.through (earlier ++ .redirect :: later)).pipe.input =
          if later.any Use.takesInput then [] else segment.data := by
  refine ⟨⟨earlier.length, .input, (account io.pipe.output earlier).left⟩, ?_, rfl, rfl, ?_⟩
  · rw [show earlier ++ .redirect :: later = (earlier ++ [.redirect]) ++ later by simp]
    refine segments_append _ _ _ ?_
    rw [account_concat, Account.segments_enter]
    exact List.mem_append_right _ (List.mem_singleton_self _)
  -- with the redirect the input is all that was left; from there on only reads can change it
  · rw [through_append, through_cons, input_through ((h.through earlier).after .redirect) hlater,
      ← output_through h earlier]
    rfl

theorem conserved_of_unfailing (h : io.Unfailing) (uses : List Use) : Conserved io uses where
  whole := (data_account io.pipe.output uses).symm
  places := places_account io.pipe.output uses
  arrives := segment_arrives h uses
  output := output_through h uses
  sink := sink_through h uses
  latest := by
    rintro earlier later rfl hlater
    obtain ⟨segment, hmem, hplace, hroute, hinput⟩ := latest_redirect h hlater
    exact ⟨segment, hmem, hplace, hroute, fun p hp => hinput ▸ gives_input _ hp⟩
  initial := fun hmove p hp => input_through h hmove ▸ gives_input _ hp
  source := by
    intro p hp
    have hrest : (io.through uses).source.ahead ++ (io.through uses).source.rest =
        if uses.any Use.takesSource then [] else io.source.ahead ++ io.source.rest := by
      rw [source_through h uses]
      split
      · rfl
      · rfl
    exact hrest ▸ gives_source (h.through uses).source hp
  flushed := fun p hp => by rw [flush_unlimited (h.through uses).sink hp]
  kept := fun p hp => flush_of_not_last _ hp

/-! ## A sink that takes no more -/

theorem flush_full {p : Position} {room : Nat} (hp : p.isLast = true) (hroom : io.sink.room = some room)
    (hfull : room < io.pipe.output.length) :
    io.flush p =
      (.error Sink.full, { io with sink := ⟨some 0, io.sink.written ++ io.pipe.output.take room⟩ }) := by
  have hno : ¬ io.pipe.output.length ≤ room := by omega
  have hnone : room - io.pipe.output.length = 0 := by omega
  simp only [flush, hp, if_true, Pipe.flush, Sink.write, hroom, if_neg hno, hnone]

/-- A flush fails only for want of room, and then part of the output has been taken. -/
theorem room_of_flush_error {p : Position} {cause : Text} (h : (io.flush p).1 = .error cause) :
    p.isLast = true ∧ ∃ room, io.sink.room = some room ∧ room < io.pipe.output.length := by
  cases hp : p.isLast with
  | false =>
    rw [flush_of_not_last io hp] at h
    cases h
  | true =>
    refine ⟨rfl, ?_⟩
    cases hroom : io.sink.room with
    | none =>
      rw [flush_unlimited hroom hp] at h
      cases h
    | some room =>
      refine ⟨room, rfl, ?_⟩
      by_cases hfits : io.pipe.output.length ≤ room
      · simp [flush, hp, Pipe.flush, Sink.write, hroom, hfits] at h
      · omega

/-- For streams in any state and any history of uses at any positions: when neither the source nor the
sink fails, every byte that was written is accounted for, in order, and every read gives what it should.
When a flush fails, whatever part of the output the sink has taken, the pipe is as it was. -/
theorem uses_conserve (io : Streams) (uses : List Use) :
    (io.Unfailing → Conserved io uses) ∧
    (∀ p room, p.isLast = true → io.sink.room = some room → room < io.pipe.output.length →
      io.flush p =
        (.error Sink.full, { io with sink := ⟨some 0, io.sink.written ++ io.pipe.output.take room⟩ })) ∧
    ∀ p cause, (io.flush p).1 = .error cause →
      (io.flush p).2.pipe = io.pipe ∧ (io.flush p).2.source = io.source ∧
        ∃ n < io.pipe.output.length, (io.flush p).2.sink.written = io.sink.written ++ io.pipe.output.take n := by
  refine ⟨fun h => conserved_of_unfailing h uses,
    fun p room hp hroom hfull => flush_full hp hroom hfull, ?_⟩
  intro p cause herror
  obtain ⟨hp, room, hroom, hfull⟩ := room_of_flush_error herror
  rw [flush_full hp hroom hfull]
  exact ⟨rfl, rfl, room, hfull, rfl⟩

/-- A redirect over input that nobody has read, reads on both sides, and flushes with and without output. -/
def exchange : List Use :=
  [.append ['a', 'b'], .redirect, .write [99], .redirect, .readText ⟨1, 2⟩, .readBytes ⟨1, 2⟩, .flush ⟨0, 2⟩,
    .readBytes ⟨0, 1⟩, .write [100], .flush ⟨1, 2⟩, .flush ⟨0, 1⟩, .append ['e']]

def blocked : Streams := { pipe := ⟨[1, 2, 3], [4]⟩, sink := { room := some 2 } }

theorem uses_conserve_exchange :
    let io : Streams := { source := { rest := [105] } }
    let failed := (blocked.flush ⟨1, 2⟩).2
    Conserved io exchange ∧
      account io.pipe.output exchange =
        ⟨[⟨1, .input, [97, 98]⟩, ⟨3, .input, [99]⟩, ⟨9, .sink, [100]⟩, ⟨10, .sink, []⟩], [101]⟩ ∧
      blocked.flush ⟨1, 2⟩ = (.error Sink.full, { blocked with sink := ⟨some 0, [1, 2]⟩ }) ∧
      failed.pipe = blocked.pipe ∧ failed.source = blocked.source := by
  intro io failed
  obtain ⟨hsound, -, -⟩ := uses_conserve io exchange
  obtain ⟨-, hfull, herror⟩ := uses_conserve blocked []
  have hflush := hfull ⟨1, 2⟩ 2 rfl rfl (by decide)
  obtain ⟨hpipe, hsource, -⟩ := herror ⟨1, 2⟩ Sink.full (congrArg Prod.fst hflush)
  exact ⟨hsound ⟨rfl, rfl⟩, by decide, hflush, hpipe, hsource⟩

end Streams

end LineShell
