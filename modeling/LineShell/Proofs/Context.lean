import LineShell.Builtin.Grep
import LineShell.Proofs.Lines

/-!
The lines that `grep` prints: those that match and so many lines behind each of them, every line once and
in order. Two hyphens stand between lines that are not neighbours, and nowhere else.

  - `InContext` / `context`: the lines that are to be printed, with their indices.
  - `render`: how they are to be printed.
  - `entries_keep`: counting down from each match keeps the lines in context.
  - `join_runs`: runs of kept lines, joined, are the kept lines as they are to be printed.
  - `mark?_eq` / `print?_eq`: so are the lines marked and printed by their indices in machine words, and
    no index is out of range and no sum too large on the way.
  - `select_context`: what is printed of a text, either way.
-/

namespace LineShell.Builtin.Grep

def tag : Option Text → Text
  | none => []
  | some file => file ++ [':']

/-- Does the line at `i` match, or is it at most `after` lines behind one that does? -/
def InContext (after : Nat) (isMatch : Text → Bool) (lines : List Text) (i : Nat) : Prop :=
  ∃ j ≤ i, i ≤ j + after ∧ lines[j]?.any isMatch = true

instance (after : Nat) (isMatch : Text → Bool) (lines : List Text) (i : Nat) :
    Decidable (InContext after isMatch lines i) :=
  inferInstanceAs (Decidable (∃ j ≤ i, i ≤ j + after ∧ lines[j]?.any isMatch = true))

def context (after : Nat) (isMatch : Text → Bool) (lines : List Text) : List (Text × Nat) :=
  lines.zipIdx.filter fun entry => InContext after isMatch lines entry.2

/-- What stands between the lines at `i` and `k` if none is printed between them. -/
def separator (after i k : Nat) : Text := if 0 < after ∧ i + 1 < k then "--\n".toList else []

def render (after : Nat) (label : Text) : List (Text × Nat) → Text
  | [] => []
  | [(line, _)] => labelled label line
  | (line, i) :: (next, k) :: rest =>
    labelled label line ++ separator after i k ++ render after label ((next, k) :: rest)

/-! ## By index

The lines are marked first and printed then. Whatever can go wrong with an index or a sum gives `none`. -/

/-- The largest index that there can be. -/
def wordMax : Nat := UInt64.size - 1

def saturatingAdd (a b : Nat) : Nat := min (a + b) wordMax

def add? (a b : Nat) : Option Nat := if a + b ≤ wordMax then some (a + b) else none

def fill? (marks : List Bool) (start stop : Nat) : Option (List Bool) :=
  if start ≤ stop ∧ stop ≤ marks.length then
    some (marks.mapIdx fun k marked => marked || (decide (start ≤ k) && decide (k < stop)))
  else none

/-- Mark what each match asks for, from the line at `i` on. -/
def mark? (after total : Nat) (isMatch : Text → Bool) : Nat → List Text → List Bool → Option (List Bool)
  | _, [], marks => some marks
  | i, line :: rest, marks => do
    let next ← add? i 1
    if isMatch line then
      let marks ← fill? marks i (min (saturatingAdd (saturatingAdd i after) 1) total)
      mark? after total isMatch next rest marks
    else mark? after total isMatch next rest marks

/-- What goes before the line at `i` when `last` was the last one printed. -/
def gap? (after i : Nat) : Option Nat → Option Text
  | none => some []
  | some last =>
    if 0 < after then (add? last 1).map fun next => if next < i then "--\n".toList else []
    else some []

def print? (after : Nat) (label : Text) (marks : List Bool) : Option Nat → Nat → List Text → Option Text
  | _, _, [] => some []
  | last, i, line :: rest => do
    let next ← add? i 1
    let marked ← marks[i]?
    if marked then
      let gap ← gap? after i last
      let tail ← print? after label marks (some i) next rest
      some (gap ++ labelled label line ++ tail)
    else print? after label marks last next rest

/-- The lines of a text that are printed, by way of marks. -/
def selectMarked? (after : Nat) (isMatch : Text → Bool) (label text : Text) : Option Text := do
  let lines := Text.lines text
  let marks ← mark? after lines.length isMatch 0 lines (List.replicate lines.length false)
  print? after label marks none 0 lines

variable {after : Nat} {isMatch : Text → Bool} {label line : Text} {lines seen rest : List Text} {i k : Nat}

/-! ## Lines in context -/

theorem lt_length_of_match {j : Nat} (h : lines[j]?.any isMatch = true) : j < lines.length := by
  rcases Nat.lt_or_ge j lines.length with hlt | hge
  · exact hlt
  · rw [List.getElem?_eq_none hge] at h
    cases h

theorem not_inContext_nil : ¬ InContext after isMatch [] i := by
  rintro ⟨j, -, -, hmatch⟩
  cases hmatch

/-- One more line puts into context itself and what follows it, if it matches. -/
theorem inContext_concat :
    InContext after isMatch (seen ++ [line]) i ↔
      InContext after isMatch seen i ∨ (isMatch line = true ∧ seen.length ≤ i ∧ i ≤ seen.length + after) := by
  constructor
  · rintro ⟨j, hji, hij, hmatch⟩
    have hj := lt_length_of_match hmatch
    rw [List.length_append, List.length_singleton] at hj
    by_cases heq : j = seen.length
    · subst heq
      rw [List.getElem?_concat_length] at hmatch
      exact Or.inr ⟨hmatch, hji, hij⟩
    · rw [List.getElem?_append_left (by omega)] at hmatch
      exact Or.inl ⟨j, hji, hij, hmatch⟩
  · rintro (⟨j, hji, hij, hmatch⟩ | ⟨hmatch, hle, hge⟩)
    · have hj := lt_length_of_match hmatch
      exact ⟨j, hji, hij, by rwa [List.getElem?_append_left hj]⟩
    · exact ⟨seen.length, hle, hge, by rwa [List.getElem?_concat_length]⟩

/-- Only the lines up to the one at `i` decide about it. -/
theorem inContext_append (h : i < seen.length) :
    InContext after isMatch (seen ++ rest) i ↔ InContext after isMatch seen i := by
  have hsame : ∀ j ≤ i, (seen ++ rest)[j]? = seen[j]? := fun j hj => List.getElem?_append_left (by omega)
  constructor
  · rintro ⟨j, hji, hij, hmatch⟩
    exact ⟨j, hji, hij, by rwa [← hsame j hji]⟩
  · rintro ⟨j, hji, hij, hmatch⟩
    exact ⟨j, hji, hij, by rwa [hsame j hji]⟩

/-- The context of the lines seen ends `after` lines behind the last of them. -/
theorem lt_of_inContext (h : InContext after isMatch seen i) : i < seen.length + after := by
  obtain ⟨j, -, hij, hmatch⟩ := h
  have hj := lt_length_of_match hmatch
  omega

/-! ## Counting down -/

/-- The kept lines with their indices, the first of which is `k`. -/
def entries (k : Nat) (kept : List (Option Text)) : List (Text × Nat) :=
  (kept.zipIdx k).filterMap fun entry => entry.1.map (·, entry.2)

@[simp] theorem entries_none (k : Nat) (kept : List (Option Text)) :
    entries k (none :: kept) = entries (k + 1) kept := rfl

@[simp] theorem entries_some (k : Nat) (line : Text) (kept : List (Option Text)) :
    entries k (some line :: kept) = (line, k) :: entries (k + 1) kept := rfl

/-- Of the lines to come, the next `left` are in the context of those seen. -/
def Covers (after : Nat) (isMatch : Text → Bool) (seen : List Text) (left : Nat) : Prop :=
  ∀ i, seen.length ≤ i → (i < seen.length + left ↔ InContext after isMatch seen i)

theorem covers_nil : Covers after isMatch [] 0 := by
  intro i _
  have hnot : ¬ InContext after isMatch [] i := not_inContext_nil
  simp [hnot]

/-- A match puts `after + 1` lines into context; without one, one line less is. -/
theorem Covers.concat {left : Nat} (h : Covers after isMatch seen left) (line : Text) :
    Covers after isMatch (seen ++ [line]) ((if isMatch line then after + 1 else left) - 1) := by
  intro i hi
  rw [List.length_append, List.length_singleton] at hi ⊢
  rw [inContext_concat, ← h i (by omega)]
  cases hmatch : isMatch line with
  | true =>
    -- what was to come before this match is not more than what it asks for itself
    have hbound : left ≤ after := by
      rcases Nat.lt_or_ge after left with hlt | hge
      · have hend := lt_of_inContext ((h (seen.length + after) (by omega)).mp (by omega))
        omega
      · exact hge
    simp only [if_true, true_and]
    omega
  | false =>
    simp only [Bool.false_eq_true, if_false, false_and, or_false]
    omega

/-- A line is kept in context of the lines up to it, so when something is left of the countdown. -/
theorem Covers.inContext_here {left : Nat} (h : Covers after isMatch seen left) (line : Text) (rest : List Text) :
    InContext after isMatch (seen ++ line :: rest) seen.length ↔ 0 < if isMatch line then after + 1 else left := by
  rw [show seen ++ line :: rest = (seen ++ [line]) ++ rest by simp, inContext_append (by simp), inContext_concat,
    ← h seen.length (Nat.le_refl _)]
  cases hmatch : isMatch line with
  | true => simp
  | false => simp

/-- The countdown keeps the lines that are in context. -/
theorem entries_keep {left : Nat} (h : Covers after isMatch seen left) :
    entries seen.length (keep after isMatch left rest) =
      (rest.zipIdx seen.length).filter fun entry => InContext after isMatch (seen ++ rest) entry.2 := by
  induction rest generalizing seen left with
  | nil => rfl
  | cons line rest ih =>
    have hrest := ih (h.concat line)
    have hhere := h.inContext_here line rest
    rw [List.length_append, List.length_singleton, List.append_assoc, List.singleton_append] at hrest
    rw [List.zipIdx_cons, List.filter_cons, keep]
    generalize (if isMatch line then after + 1 else left) = now at hrest hhere ⊢
    cases now with
    | zero => rw [entries_none, hrest, if_neg (by simp [hhere])]
    | succ now =>
      rw [Nat.add_sub_cancel] at hrest
      rw [entries_some, hrest, if_pos (by simp [hhere])]

theorem entries_keep_lines (after : Nat) (isMatch : Text → Bool) (lines : List Text) :
    entries 0 (keep after isMatch 0 lines) = context after isMatch lines :=
  entries_keep covers_nil

/-! ## Runs -/

theorem le_of_mem_entries {kept : List (Option Text)} {entry : Text × Nat} (h : entry ∈ entries k kept) :
    k ≤ entry.2 := by
  induction kept generalizing k with
  | nil => cases h
  | cons first kept ih =>
    cases first with
    | none =>
      have := ih h
      omega
    | some line =>
      rcases List.mem_cons.mp h with rfl | h
      · exact Nat.le_refl _
      · have := ih h
        omega

theorem entries_eq_nil {kept : List (Option Text)} : entries k kept = [] ↔ runs kept = [] := by
  induction kept generalizing k with
  | nil => simp [entries, runs]
  | cons first kept ih =>
    cases first with
    | none => exact ih
    | some line =>
      rw [entries_some, runs]
      split
      · simp
      · simp

/-- What comes before the next of these lines when the line at `last` was the one before it. -/
def opening (after : Nat) : Option Nat → List (Text × Nat) → Text
  | some last, (_, k) :: _ => separator after last k
  | _, _ => []

theorem render_cons (after : Nat) (label line : Text) (i : Nat) (chosen : List (Text × Nat)) :
    render after label ((line, i) :: chosen) =
      labelled label line ++ opening after (some i) chosen ++ render after label chosen := by
  cases chosen with
  | nil => simp [render, opening]
  | cons => rfl

/-- A kept line right before another is in the run of that one. -/
theorem runs_next (line next : Text) (kept : List (Option Text)) :
    ∃ run others, runs (some next :: kept) = run :: others ∧
      runs (some line :: some next :: kept) = (line :: run) :: others := by
  obtain ⟨run, others, h⟩ : ∃ run others, runs (some next :: kept) = run :: others := by
    rw [runs]
    split
    · exact ⟨_, _, rfl⟩
    · exact ⟨_, _, rfl⟩
  exact ⟨run, others, h, by rw [runs, h]; rfl⟩

/-- The runs, joined, are the kept lines with hyphens wherever a line between two of them is missing. -/
theorem join_runs (after : Nat) (label : Text) (k : Nat) (kept : List (Option Text)) :
    Text.join (if after > 0 then "--\n".toList else []) ((runs kept).map (·.flatMap (labelled label))) =
      render after label (entries k kept) := by
  induction kept generalizing k with
  | nil => rfl
  | cons first kept ih =>
    cases first with
    | none => exact ih (k + 1)
    | some line =>
      rw [entries_some, render_cons, ← ih (k + 1)]
      rcases kept with _ | ⟨_ | next, kept⟩
      · simp [runs, Text.join, entries, opening]
      · have hruns : runs (some line :: none :: kept) = [line] :: runs (none :: kept) := rfl
        rw [hruns, List.map_cons, List.flatMap_singleton]
        cases hchosen : entries (k + 1) (none :: kept) with
        | nil =>
          rw [entries_eq_nil.mp hchosen]
          simp [Text.join, opening]
        | cons entry chosen =>
          have hne : runs (none :: kept) ≠ [] := by
            rw [Ne, ← entries_eq_nil (k := k + 1), hchosen]
            exact List.cons_ne_nil _ _
          have hgap : k + 1 < entry.2 := by
            have hmem : entry ∈ entries (k + 1 + 1) kept := by
              rw [← entries_none, hchosen]
              exact List.mem_cons_self
            exact le_of_mem_entries hmem
          rw [Text.join_cons _ _ (by simpa using hne)]
          simp [opening, separator, hgap]
      · obtain ⟨run, others, hnext, hboth⟩ := runs_next line next kept
        rw [hboth, hnext, List.map_cons, List.flatMap_cons, Text.join_append, entries_some, List.map_cons]
        simp [opening, separator]

/-! ## Marks -/

def marks (after : Nat) (isMatch : Text → Bool) (seen : List Text) (total : Nat) : List Bool :=
  (List.range total).map fun k => InContext after isMatch seen k

theorem add?_one (h : i < k) (hword : k ≤ wordMax) : add? i 1 = some (i + 1) := by
  have hfits : i + 1 ≤ wordMax := Nat.le_trans h hword
  rw [add?, if_pos hfits]

/-- A sum is cut off only where there are no more lines. -/
theorem min_saturatingAdd {total : Nat} (hword : total ≤ wordMax) (i after : Nat) :
    min (saturatingAdd (saturatingAdd i after) 1) total = min (i + after + 1) total := by
  unfold saturatingAdd
  generalize wordMax = word at hword ⊢
  omega

/-- A match marks itself and what follows it, and no index or sum is out of range. -/
theorem fill?_marks (after : Nat) {total : Nat} (hmatch : isMatch line = true) (hword : total ≤ wordMax)
    (hlt : seen.length < total) :
    fill? (marks after isMatch seen total) seen.length
        (min (saturatingAdd (saturatingAdd seen.length after) 1) total) =
      some (marks after isMatch (seen ++ [line]) total) := by
  have hlen : (marks after isMatch seen total).length = total := by simp [marks]
  rw [min_saturatingAdd hword, fill?, if_pos ⟨by omega, by omega⟩, Option.some.injEq]
  refine List.ext_getElem (by simp [marks]) fun k hk _ => ?_
  rw [List.length_mapIdx, hlen] at hk
  have hfilled : k < min (seen.length + after + 1) total ↔ k ≤ seen.length + after := by omega
  simp only [marks, List.getElem_mapIdx, List.getElem_map, List.getElem_range, inContext_concat, hmatch, hfilled,
    true_and, Bool.decide_or, Bool.decide_and]

theorem marks_concat {total : Nat} (hmatch : isMatch line = false) :
    marks after isMatch (seen ++ [line]) total = marks after isMatch seen total := by
  simp [marks, inContext_concat, hmatch]

/-- Marking the rest of the lines goes through and marks what is in context. -/
theorem mark?_eq (after : Nat) (isMatch : Text → Bool) {total : Nat} (hword : total ≤ wordMax) (seen : List Text)
    (hlen : seen.length + rest.length = total) :
    mark? after total isMatch seen.length rest (marks after isMatch seen total) =
      some (marks after isMatch (seen ++ rest) total) := by
  induction rest generalizing seen with
  | nil => rw [mark?, List.append_nil]
  | cons line rest ih =>
    rw [List.length_cons] at hlen
    have hnext := ih (seen ++ [line]) (by simp; omega)
    rw [List.length_append, List.length_singleton, List.append_assoc, List.singleton_append] at hnext
    have hadd := add?_one (show seen.length < total by omega) hword
    cases hmatch : isMatch line with
    | true =>
      have hfill := fill?_marks after hmatch hword (show seen.length < total by omega)
      simp only [mark?, hadd, hmatch, hfill, if_true, Option.bind_eq_bind, Option.bind_some, hnext]
    | false =>
      rw [marks_concat hmatch] at hnext
      simp only [mark?, hadd, hmatch, Bool.false_eq_true, if_false, Option.bind_eq_bind, Option.bind_some, hnext]

theorem gap?_eq (after : Nat) {last : Option Nat} (h : i ≤ wordMax) (hlast : ∀ l ∈ last, l < i) (line : Text)
    (chosen : List (Text × Nat)) :
    gap? after i last = some (opening after last ((line, i) :: chosen)) := by
  cases last with
  | none => rfl
  | some last =>
    have hadd := add?_one (hlast last rfl) h
    by_cases hafter : 0 < after
    · simp [gap?, opening, separator, hafter, hadd]
    · simp [gap?, opening, separator, hafter]

/-- Printing the rest of the lines goes through and prints what is in context. -/
theorem print?_eq (after : Nat) (isMatch : Text → Bool) (label : Text) (hword : lines.length ≤ wordMax)
    (last : Option Nat) (i : Nat) (hlen : i + rest.length = lines.length) (hlast : ∀ l ∈ last, l < i) :
    let chosen := (rest.zipIdx i).filter fun entry => InContext after isMatch lines entry.2
    print? after label (marks after isMatch lines lines.length) last i rest =
      some (opening after last chosen ++ render after label chosen) := by
  induction rest generalizing last i with
  | nil => cases last <;> rfl
  | cons line rest ih =>
    rw [List.length_cons] at hlen
    have hi : i < lines.length := by omega
    have hadd := add?_one hi hword
    have hmark : (marks after isMatch lines lines.length)[i]? = some (decide (InContext after isMatch lines i)) := by
      simp [marks, hi]
    by_cases hin : InContext after isMatch lines i
    · have htail := ih (some i) (i + 1) (by omega) (by simp)
      simp only [print?, hadd, hmark, Option.bind_eq_bind, Option.bind_some, hin, decide_true, if_true,
        List.zipIdx_cons, List.filter_cons, htail]
      rw [render_cons]
      generalize (rest.zipIdx (i + 1)).filter (fun entry => decide (InContext after isMatch lines entry.2)) = chosen
      have hgap := gap?_eq after (Nat.le_trans (Nat.le_of_lt hi) hword) hlast line chosen
      simp only [hgap, Option.bind_some, List.append_assoc]
    · have htail := ih last (i + 1) (by omega) fun l hl => Nat.lt_succ_of_lt (hlast l hl)
      simp only [print?, hadd, hmark, Option.bind_eq_bind, Option.bind_some, hin, decide_false, Bool.false_eq_true,
        if_false, List.zipIdx_cons, List.filter_cons, htail]

/-! ## What is printed -/

theorem select_eq_render (after : Nat) (isMatch : Text → Bool) (label text : Text) :
    select after isMatch label text = render after label (context after isMatch (Text.lines text)) := by
  rw [← entries_keep_lines, ← join_runs, select]

theorem selectMarked?_eq_render (after : Nat) (isMatch : Text → Bool) (label text : Text)
    (hword : (Text.lines text).length ≤ wordMax) :
    selectMarked? after isMatch label text =
      some (render after label (context after isMatch (Text.lines text))) := by
  have hclear : List.replicate (Text.lines text).length false = marks after isMatch [] (Text.lines text).length := by
    simp [marks, not_inContext_nil, List.map_const']
  have hmarks := mark?_eq after isMatch hword [] (Nat.zero_add (Text.lines text).length)
  have hprint := print?_eq after isMatch label hword none 0 (Nat.zero_add _) nofun
  rw [List.length_nil] at hmarks
  simp only [selectMarked?, hclear, hmarks, List.nil_append, Option.bind_eq_bind, Option.bind_some, hprint]
  rfl

/-- For every text, every choice of lines that match, every number of lines behind a match and every label
that a file may have: the lines in context are printed, each once and in order, under the label and with
hyphens between those that are not neighbours. If the lines can be counted in machine words, marking and
printing them by index comes to the same, without an index out of range or a sum that is too large. -/
theorem select_context (after : Nat) (isMatch : Text → Bool) (file : Option Text) (text : Text) :
    select after isMatch (tag file) text =
        render after (tag file) (context after isMatch (Text.lines text)) ∧
      ((Text.lines text).length ≤ wordMax →
        selectMarked? after isMatch (tag file) text = some (select after isMatch (tag file) text)) := by
  have hselect := select_eq_render after isMatch (tag file) text
  refine ⟨hselect, fun hword => ?_⟩
  rw [hselect]
  exact selectMarked?_eq_render after isMatch (tag file) text hword

/-- Matches next to each other, with one line and with two lines between them, and at the end of the text. -/
def windows : Text := "a\nm\nb\nm\nm\nc\nd\nm\n".toList

theorem select_context_windows :
    let isMatch := fun line : Text => line == ['m']
    (Text.lines windows).length ≤ wordMax ∧
      select 1 isMatch (tag (some ['f'])) windows = "f:m\nf:b\nf:m\nf:m\nf:c\n--\nf:m\n".toList ∧
      selectMarked? 1 isMatch (tag (some ['f'])) windows = some "f:m\nf:b\nf:m\nf:m\nf:c\n--\nf:m\n".toList ∧
      selectMarked? wordMax isMatch (tag none) windows = some "m\nb\nm\nm\nc\nd\nm\n".toList := by
  intro isMatch
  have hword : (Text.lines windows).length ≤ wordMax := by decide
  obtain ⟨-, hone⟩ := select_context 1 isMatch (some ['f']) windows
  obtain ⟨-, hall⟩ := select_context wordMax isMatch none windows
  exact ⟨hword, rfl, hone hword, hall hword⟩

end LineShell.Builtin.Grep
