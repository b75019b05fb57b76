import LineShell.Proofs.Context
import LineShell.Proofs.FailFast
import LineShell.Proofs.Lines
import LineShell.Proofs.NamedFiles

/-!
`grep` behind `grep`, both with the same pattern and without trailing context. The second one reads the
lines that the first one prints, each without one carriage return at its end, for a carriage return
before a newline is taken for a part of the end of the line. So it prints the same only if no line that
comes to it has one there.

  - `select_zero`: without context the lines that match are printed.
  - `kept_printed`: what the second one keeps of what the first one prints.
  - `again_eq_iff`: when this is the same.
  - `chain_regrep`: both lines of a session.
-/

namespace LineShell

namespace Builtin.Grep

variable {isMatch : Text → Bool}

theorem inContext_zero {lines : List Text} {i : Nat} :
    InContext 0 isMatch lines i ↔ lines[i]?.any isMatch = true := by
  constructor
  · rintro ⟨j, hji, hij, hmatch⟩
    obtain rfl : j = i := by omega
    exact hmatch
  · intro h
    exact ⟨i, Nat.le_refl i, Nat.le_refl i, h⟩

theorem map_context_zero (isMatch : Text → Bool) (lines : List Text) :
    (context 0 isMatch lines).map Prod.fst = lines.filter isMatch := by
  have hcontext : context 0 isMatch lines = lines.zipIdx.filter (isMatch ∘ Prod.fst) := by
    refine List.filter_congr fun entry hentry => ?_
    have hline : lines[entry.2]? = some entry.1 := List.mem_zipIdx_iff_getElem?.mp hentry
    simp only [inContext_zero, hline, Option.any_some, Bool.decide_eq_true, Function.comp_apply]
  have hfirst : lines.zipIdx.map Prod.fst = lines := List.zipIdx_map_fst 0 lines
  rw [hcontext, ← List.filter_map, hfirst]

theorem render_zero (chosen : List (Text × Nat)) : render 0 [] chosen = Text.ofLines (chosen.map Prod.fst) := by
  induction chosen with
  | nil => rfl
  | cons entry chosen ih =>
    have hopening : opening 0 (some entry.2) chosen = [] := by
      cases chosen with
      | nil => rfl
      | cons => simp [opening, separator]
    rw [render_cons, ih, hopening, List.append_nil, List.map_cons, Text.ofLines_cons, labelled, List.append_assoc]
    rfl

theorem select_zero (isMatch : Text → Bool) (text : Text) :
    select 0 isMatch [] text = Text.ofLines ((Text.lines text).filter isMatch) := by
  rw [select_eq_render, render_zero, map_context_zero]

def kept (e : Pattern.Expr) (data : Bytes) : List Text := (Text.lines (Utf8.decode data)).filter e.isMatch

/-- What is left of lines when they are printed, read back and searched once more. -/
def again (e : Pattern.Expr) (lines : List Text) : List Text := (lines.map Text.chomp).filter e.isMatch

variable {grep : Grep} {e : Pattern.Expr}

theorem output_zero (hafter : grep.after = 0) (e : Pattern.Expr) (data : Bytes) :
    grep.output e [] data = Utf8.encode (Text.ofLines (kept e data)) := by
  rw [output, hafter, select_zero]
  rfl

theorem newline_notMem_of_kept {data : Bytes} {line : Text} (h : line ∈ kept e data) : '\n' ∉ line :=
  Text.not_mem_of_mem_lines (List.mem_filter.mp h).1

/-- Lines that were printed are decoded as they were, and then read back. -/
theorem kept_printed (e : Pattern.Expr) (data : Bytes) :
    kept e (Utf8.encode (Text.ofLines (kept e data))) = again e (kept e data) := by
  have hread : Text.lines (Text.ofLines (kept e data)) = (kept e data).map Text.chomp :=
    Text.lines_printed fun line hline => newline_notMem_of_kept hline
  rw [kept, Utf8.decode_encode, hread, again]

end Builtin.Grep

namespace Text

def endsReturn (line : Text) : Bool := line.getLast? == some '\r'

theorem length_chomp (line : Text) : (chomp line).length + (if endsReturn line then 1 else 0) = line.length := by
  unfold chomp endsReturn
  by_cases h : line.getLast? = some '\r'
  · have hne : line ≠ [] := by
      rintro rfl
      cases h
    have hpos := List.length_pos_iff.mpr hne
    rw [if_pos h, h, List.length_dropLast]
    show line.length - 1 + 1 = line.length
    omega
  · rw [if_neg h, if_neg (by simpa using h)]
    rfl

theorem length_ofLines_cons (line : Text) (rest : List Text) :
    (ofLines (line :: rest)).length = line.length + 1 + (ofLines rest).length := by
  rw [ofLines_cons, List.length_append, List.length_cons]
  omega

/-- Reading lines back and dropping some of them makes the text shorter by the carriage returns at least. -/
theorem length_ofLines_again (p : Text → Bool) (printed : List Text) :
    (ofLines ((printed.map chomp).filter p)).length + printed.countP endsReturn ≤ (ofLines printed).length := by
  induction printed with
  | nil => exact Nat.le_refl 0
  | cons line rest ih =>
    have hline := length_chomp line
    rw [List.map_cons, List.filter_cons, List.countP_cons, length_ofLines_cons]
    by_cases hp : p (chomp line) = true
    · rw [if_pos hp, length_ofLines_cons]
      omega
    · rw [if_neg hp]
      omega

end Text

namespace Builtin.Grep

/-- Searched once more, lines that match are the same exactly if none of them ends with a carriage return. -/
theorem again_eq_iff {e : Pattern.Expr} {lines : List Text} (h : ∀ line ∈ lines, e.isMatch line = true) :
    Text.ofLines (again e lines) = Text.ofLines lines ↔ ∀ line ∈ lines, line.getLast? ≠ some '\r' := by
  constructor
  · intro hsame line hline hreturn
    have hlength := Text.length_ofLines_again e.isMatch lines
    have hcount : 0 < lines.countP Text.endsReturn :=
      List.countP_pos_iff.mpr ⟨line, hline, by simp [Text.endsReturn, hreturn]⟩
    unfold again at hsame
    rw [hsame] at hlength
    omega
  · intro hnone
    have hchomp : lines.map Text.chomp = lines := by
      rw [List.map_congr_left fun line hline => Text.chomp_of_ne (hnone line hline)]
      exact List.map_id' lines
    rw [again, hchomp, List.filter_eq_self.mpr h]

theorem filter_unnamed {grep : Grep} {e : Pattern.Expr} (hfiles : grep.files = []) (hafter : grep.after = 0)
    (hvalid : Pattern.compile grep.ignoreCase grep.patternText = .ok e) (site : Site) (data : Bytes) :
    (grep.behaviour site).filter data = Utf8.encode (Text.ofLines (kept e data)) := by
  have hbehaviour : grep.behaviour site = .reads fun data => ⟨grep.output e [] data, 0⟩ := by
    rw [behaviour, hvalid, hfiles]
  rw [hbehaviour, ← output_zero hafter]
  rfl

end Builtin.Grep

namespace Flow

variable {m : Machine} {s : Session} {before : List Stage} {first second : Stage}

/-- A fold that goes on reports nothing, so no place either. -/
theorem renumber_of_goOn {flow : Flow} (h : flow.outcome = .ok .goOn) (place : Nat → Nat) (total : Nat) :
    flow.renumber place total = flow := by
  rw [renumber, h, Except.mapError, ← h]

theorem ofStages_concat (before : List Stage) (first : Stage) :
    ofStages m s (before ++ [first]) =
      (upTo m s (before ++ [first]) before.length).step m s.directory (before ++ [first]).length (first, before.length) := by
  have hlast : (before ++ [first])[before.length]? = some first := List.getElem?_concat_length
  rw [← upTo_length, List.length_append, List.length_singleton, upTo_succ hlast, List.length_append,
    List.length_singleton]

theorem ofStages_pair (hne : before ≠ []) :
    ofStages m s (before ++ [first, second]) =
      (((upTo m s (before ++ [first]) before.length).renumber id (before ++ [first, second]).length).step m s.directory
          (before ++ [first, second]).length (first, before.length)).step m s.directory
        (before ++ [first, second]).length (second, before.length + 1) := by
  have hpos := List.length_pos_iff.mpr hne
  have hsplit : before ++ [first, second] = (before ++ [first]) ++ [second] := by rw [List.append_assoc]; rfl
  have hfirst : (before ++ [first, second])[before.length]? = some first := by
    rw [List.getElem?_append_right (Nat.le_refl _), Nat.sub_self]
    rfl
  have hsame : upTo m s (before ++ [first, second]) before.length =
      (upTo m s (before ++ [first]) before.length).renumber id (before ++ [first, second]).length := by
    refine upTo_renumber ?_ ?_ ?_
    · rw [List.length_append, List.length_singleton]
      omega
    · rw [List.length_append, List.length_cons, List.length_singleton]
      omega
    · rw [List.take_left' rfl, List.take_left' rfl]
  have hlen : (before ++ [first]).length = before.length + 1 := List.length_append
  rw [← hsame, ← upTo_succ hfirst, hsplit, ofStages_concat, hlen]

end Flow

namespace Session

open Builtin

/-- A pipeline that ends with `grep` once, and with the same `grep` twice, the pattern being valid and no
context asked for. If a stage before them ends the line, the two leave the same session and nothing is
printed. If not, the first `grep` prints the lines that match of the bytes that come to it, and the second
one prints of these lines, each without one carriage return at its end, those that still match. This is
the same exactly if no line that the first one prints ends with a carriage return. -/
theorem chain_regrep (s : Session) (m : Machine) {before : List Stage} (hne : before ≠ []) {first second : Stage}
    {grep : Grep} (hfirst : first.IsGrep grep) (hsecond : second.IsGrep grep) (hfiles : grep.files = [])
    (hafter : grep.after = 0) {e : Pattern.Expr}
    (hvalid : Pattern.compile grep.ignoreCase grep.patternText = .ok e) :
    let reached := Flow.upTo m s (before ++ [first]) before.length
    let kept := Grep.kept e reached.bytes
    (reached.outcome ≠ .ok .goOn →
      (s.chain m (before ++ [first])).2 = reached.leave s s.streams.sink ∧
        (s.chain m (before ++ [first, second])).2 = reached.leave s s.streams.sink) ∧
    (reached.outcome = .ok .goOn →
      s.chain m (before ++ [first]) = { reached with bytes := Utf8.encode (Text.ofLines kept) }.finish s ∧
        s.chain m (before ++ [first, second]) =
          { reached with bytes := Utf8.encode (Text.ofLines (Grep.again e kept)) }.finish s ∧
        (Utf8.encode (Text.ofLines (Grep.again e kept)) = Utf8.encode (Text.ofLines kept) ↔
          ∀ line ∈ kept, line.getLast? ≠ some '\r')) := by
  intro reached kept
  have hpos := List.length_pos_iff.mpr hne
  have honce : (before ++ [first]).length ≠ 1 := by
    rw [List.length_append, List.length_singleton]
    omega
  have htwice : (before ++ [first, second]).length ≠ 1 := by
    rw [List.length_append, List.length_cons, List.length_singleton]
    omega
  have hfilter := Grep.filter_unnamed hfiles hafter hvalid ⟨m, s.directory⟩
  rw [chain_eq_finish s m (List.append_ne_nil_of_left_ne_nil hne _),
    chain_eq_finish s m (List.append_ne_nil_of_left_ne_nil hne _), Flow.ofStages_concat, Flow.ofStages_pair hne]
  refine ⟨fun hstop => ?_, fun hgo => ?_⟩
  · have hrenumbered : (reached.renumber id (before ++ [first, second]).length).outcome ≠ .ok .goOn :=
      mt Flow.renumber_goOn_iff.mp hstop
    rw [Flow.step_of_stop hstop, Flow.step_of_stop hrenumbered, Flow.step_of_stop hrenumbered,
      Flow.finish_of_stop hstop, Flow.finish_of_stop hrenumbered]
    exact ⟨rfl, rfl⟩
  · have hmatch : ∀ line ∈ kept, e.isMatch line = true := fun line hline => (List.mem_filter.mp hline).2
    -- where both stand after the first `grep`
    let once : Flow := { reached with bytes := Utf8.encode (Text.ofLines kept) }
    have hfirstStep : ∀ total, total ≠ 1 → reached.step m s.directory total (first, before.length) = once := by
      intro total htotal
      rw [Flow.step_behaves (hfirst.behaves _) htotal hgo, hfilter]
    have hsecondStep : once.step m s.directory (before ++ [first, second]).length (second, before.length + 1) =
        { reached with bytes := Utf8.encode (Text.ofLines (Grep.again e kept)) } := by
      have hgoOnce : once.outcome = .ok .goOn := hgo
      have hread : Grep.kept e once.bytes = Grep.again e kept := Grep.kept_printed e reached.bytes
      rw [Flow.step_behaves (hsecond.behaves _) htwice hgoOnce, hfilter, hread]
    rw [Flow.renumber_of_goOn hgo, hfirstStep _ honce, hfirstStep _ htwice, hsecondStep, ← Grep.again_eq_iff hmatch]
    exact ⟨rfl, rfl, Utf8.encode_inj, congrArg _⟩

/-- A file with a line that ends with two carriage returns and a newline. -/
def returning : Host :=
  { tree := ({} : Host.Tree).add (Host.location "/f") (.file "a\r\r\nb\r\n".toUTF8.data.toList false) }

def printFile : Stage := Stage.quoted ["cat".toList, "f".toList]

def searchFor (pattern : Text) : Stage := Stage.quoted ["grep".toList, pattern]

/-- Both `grep`s of the line are alike and their pattern is valid, but one of them prints a carriage return
that the other one takes away. -/
theorem regrep_return :
    let m := returning.machine
    let grep : Grep := { pattern := ['a'] }
    (searchFor ['a']).IsGrep grep ∧ grep.files = [] ∧ grep.after = 0 ∧
      (Pattern.compile grep.ignoreCase grep.patternText).toOption.isSome ∧
      (({} : Session).chain m [printFile, searchFor ['a']]).2.streams.sink.written = [97, 13, 10] ∧
      (({} : Session).chain m [printFile, searchFor ['a'], searchFor ['a']]).2.streams.sink.written = [97, 10] := by
  intro m grep
  have hparse : Grep.parse [['a']] = .ok grep := rfl
  exact ⟨Stage.calls_quoted _ hparse, rfl, rfl, by decide, by decide +kernel, by decide +kernel⟩

/-- With `b` for a pattern the same file gives the same bytes. -/
theorem chain_regrep_same :
    let m := returning.machine
    let grep : Grep := { pattern := ['b'] }
    ∃ e, [printFile] ≠ [] ∧ (searchFor ['b']).IsGrep grep ∧ grep.files = [] ∧ grep.after = 0 ∧
      Pattern.compile grep.ignoreCase grep.patternText = .ok e ∧
      (({} : Session).chain m ([printFile] ++ [searchFor ['b'], searchFor ['b']])).2 =
        (({} : Session).chain m ([printFile] ++ [searchFor ['b']])).2 := by
  intro m grep
  have hparse : Grep.parse [['b']] = .ok grep := rfl
  have hcalls : (searchFor ['b']).IsGrep grep := Stage.calls_quoted _ hparse
  have hvalid : Pattern.compile grep.ignoreCase grep.patternText = .ok (.char 'b') := rfl
  obtain ⟨-, hgoOn⟩ := chain_regrep {} m (List.cons_ne_nil printFile []) hcalls hcalls rfl rfl hvalid
  obtain ⟨honce, htwice, hsame⟩ := hgoOn (by decide +kernel)
  refine ⟨.char 'b', List.cons_ne_nil _ _, hcalls, rfl, rfl, hvalid, ?_⟩
  rw [honce, htwice, hsame.mpr (by decide +kernel)]

end Session

end LineShell
