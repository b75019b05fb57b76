import LineShell.Proofs.Grouping
import LineShell.Text.Basic

/-!
Lines and fields of texts put together. A newline is where two texts may be joined without their lines or
fields knowing of each other, and lines that are printed are read back, each without one carriage return
at its end.

  - `not_mem_of_mem_lines`: a line holds no newline.
  - `lines_line` / `lines_printed`: what is read back of lines that were printed.
  - `lines_append` / `fields_append`: the lines and fields of a text are those of its parts.
-/

namespace LineShell.Text

theorem consHead_append (c : Char) {pieces : List Text} (h : pieces ≠ []) (more : List Text) :
    consHead c (pieces ++ more) = consHead c pieces ++ more := by
  cases pieces with
  | nil => exact absurd rfl h
  | cons => rfl

theorem consHead_ne_nil (c : Char) (pieces : List Text) : consHead c pieces ≠ [] := by
  cases pieces with
  | nil => exact List.cons_ne_nil _ _
  | cons => exact List.cons_ne_nil _ _

/-! ## Pieces -/

theorem join_append (glue piece more : Text) (pieces : List Text) :
    join glue ((piece ++ more) :: pieces) = piece ++ join glue (more :: pieces) := by
  cases pieces with
  | nil => rfl
  | cons => simp [join]

theorem join_cons (glue piece : Text) {pieces : List Text} (h : pieces ≠ []) :
    join glue (piece :: pieces) = piece ++ glue ++ join glue pieces := by
  cases pieces with
  | nil => exact absurd rfl h
  | cons => rfl

/-! ## Lines -/

theorem lines_newline (r : Text) : lines ('\n' :: r) = [] :: lines r := by rw [lines, if_pos rfl]

/-- A carriage return right before a newline goes with it. -/
theorem lines_return {r : Text} (h : r.head? = some '\n') : lines ('\r' :: r) = lines r := by
  rw [lines, if_neg (by decide), if_pos ⟨rfl, h⟩]

theorem lines_char {c : Char} (hc : c ≠ '\n') {r : Text} (h : c ≠ '\r' ∨ r.head? ≠ some '\n') :
    lines (c :: r) = consHead c (lines r) := by
  rw [lines, if_neg hc, if_neg]
  rintro ⟨hreturn, hhead⟩
  rcases h with h | h
  · exact h hreturn
  · exact h hhead

theorem not_mem_of_mem_lines {line text : Text} (h : line ∈ lines text) : '\n' ∉ line := by
  induction text generalizing line with
  | nil => cases h
  | cons c r ih =>
    by_cases hc : c = '\n'
    · subst hc
      rw [lines_newline, List.mem_cons] at h
      rcases h with rfl | h
      · exact List.not_mem_nil
      · exact ih h
    by_cases hreturn : c = '\r' ∧ r.head? = some '\n'
    · obtain ⟨rfl, hhead⟩ := hreturn
      rw [lines_return hhead] at h
      exact ih h
    · rw [lines_char hc (Decidable.not_and_iff_or_not.mp hreturn)] at h
      cases hlines : lines r with
      | nil =>
        rw [hlines] at h
        obtain rfl : line = [c] := List.mem_singleton.mp h
        simpa using Ne.symm hc
      | cons first rest =>
        rw [hlines] at h ih
        rcases List.mem_cons.mp h with rfl | h
        · have hfirst := ih List.mem_cons_self
          simpa using ⟨Ne.symm hc, hfirst⟩
        · exact ih (List.mem_cons_of_mem _ h)

/-- A line as it is read back when it was printed: without one carriage return at its end. -/
def chomp (line : Text) : Text := if line.getLast? = some '\r' then line.dropLast else line

theorem chomp_of_ne {line : Text} (h : line.getLast? ≠ some '\r') : chomp line = line := if_neg h

theorem chomp_cons (c : Char) {line : Text} (h : line ≠ []) : chomp (c :: line) = c :: chomp line := by
  obtain ⟨d, line, rfl⟩ := List.exists_cons_of_ne_nil h
  rw [chomp, chomp, List.getLast?_cons_cons, List.dropLast_cons_cons]
  split
  · rfl
  · rfl

theorem lines_line {line : Text} (h : '\n' ∉ line) (r : Text) : lines (line ++ '\n' :: r) = chomp line :: lines r := by
  induction line with
  | nil => exact lines_newline r
  | cons c line ih =>
    obtain ⟨hc, hline⟩ : '\n' ≠ c ∧ '\n' ∉ line := by simpa using h
    rw [List.cons_append]
    cases line with
    | nil =>
      by_cases hreturn : c = '\r'
      · subst hreturn
        rw [lines_return rfl, List.nil_append, lines_newline]
        rfl
      · have hkept : chomp [c] = [c] := chomp_of_ne (by simpa using hreturn)
        rw [lines_char hc.symm (Or.inl hreturn), List.nil_append, lines_newline, hkept]
        rfl
    | cons d line =>
      have hhead : (d :: line ++ '\n' :: r).head? ≠ some '\n' := by
        have hd : '\n' ≠ d := by
          intro heq
          exact hline (heq ▸ List.mem_cons_self)
        simpa using hd.symm
      rw [lines_char hc.symm (Or.inr hhead), ih hline, chomp_cons c (List.cons_ne_nil d line)]
      rfl

/-- Lines, each with a newline behind it. -/
def ofLines (lines : List Text) : Text := lines.flatMap (· ++ ['\n'])

theorem ofLines_cons (line : Text) (rest : List Text) : ofLines (line :: rest) = line ++ '\n' :: ofLines rest := by
  rw [ofLines, List.flatMap_cons, List.append_assoc]
  rfl

theorem ofLines_concat (before : List Text) (line : Text) :
    ofLines (before ++ [line]) = ofLines before ++ (line ++ ['\n']) := by
  rw [ofLines, ofLines, List.flatMap_append, List.flatMap_singleton]

theorem lines_printed {printed : List Text} (h : ∀ line ∈ printed, '\n' ∉ line) :
    lines (ofLines printed) = printed.map chomp := by
  induction printed with
  | nil => rfl
  | cons line rest ih =>
    have hrest := ih fun l hl => h l (List.mem_cons_of_mem _ hl)
    rw [ofLines_cons, lines_line (h line List.mem_cons_self), hrest, List.map_cons]

theorem lines_ne_nil (a : Text) : lines (a ++ ['\n']) ≠ [] := by
  induction a with
  | nil => exact List.cons_ne_nil _ _
  | cons c a ih =>
    rw [List.cons_append, lines]
    split
    · exact List.cons_ne_nil _ _
    split
    · exact ih
    · exact consHead_ne_nil _ _

/-- The lines of a text whose last line is complete, and of more behind it. -/
theorem lines_append (a b : Text) : lines (a ++ '\n' :: b) = lines (a ++ ['\n']) ++ lines b := by
  induction a with
  | nil => rw [List.nil_append, List.nil_append, lines_newline]; rfl
  | cons c a ih =>
    have hhead : (a ++ '\n' :: b).head? = (a ++ ['\n']).head? := by cases a <;> rfl
    rw [List.cons_append, List.cons_append, lines, lines, hhead, ih]
    split
    · rfl
    split
    · rfl
    · exact consHead_append c (lines_ne_nil a) _

/-! ## Fields -/

/-- A blank separates the fields before it from those after it. -/
theorem fields_append {c : Char} (hc : isBlank c = true) (a b : Text) :
    fields (a ++ c :: b) = fields a ++ fields b := by
  induction a with
  | nil => exact fields_blank hc b
  | cons d a ih =>
    rw [List.cons_append]
    cases hd : isBlank d with
    | true => rw [fields_blank hd, fields_blank hd, ih]
    | false =>
      rw [fields_char hd, fields_char hd, ih]
      by_cases ha : a = []
      · subst ha
        have hstart : startsBlank ([] ++ c :: b) = true := hc
        rw [if_pos (Or.inl hstart), if_pos (Or.inr rfl)]
        rfl
      · have hstart : startsBlank (a ++ c :: b) = startsBlank a := by
          obtain ⟨x, a, rfl⟩ := List.exists_cons_of_ne_nil ha
          rfl
        cases hblank : startsBlank a with
        | true =>
          rw [if_pos (Or.inl (hstart.trans hblank)), if_pos (Or.inl rfl)]
          rfl
        | false =>
          rw [if_neg (by simp [hstart, hblank]), if_neg (by simp [ha]), consHead_append d (fields_ne_nil ha hblank)]

end LineShell.Text
