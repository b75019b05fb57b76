import LineShell.Command

/-!
Arguments, mark by mark. Words are spelled out as one list of marks: their characters, the starts of
words that are an argument even without characters, and separators. The arguments are what stands
between the separators. Nothing is said there of the fields of a value, its edges, or an argument that
is open.

  - `ofMarks_separator` / `ofMarks_group`: what a separator and the end of the marks complete.
  - `splice_blank` / `splice_char`: a value meets an argument character by character.
  - `argumentsFrom_marks`: with an argument open, the arguments are those of its marks and what follows.
  - `arguments_marks`: so they are for any list of words.
-/

namespace LineShell

/-- What the words of a stage come to, in order. -/
inductive Mark where
  | separator
  /-- There is an argument here, even if no character follows. -/
  | start
  | char (c : Char)
  deriving DecidableEq, Repr

namespace Mark

def ofValueChar (c : Char) : Mark := if Text.isBlank c then separator else char c

def letter? : Mark → Option Char
  | char c => some c
  | _ => none

def letters (marks : List Mark) : Text := marks.filterMap letter?

/-- The groups of marks between separators that have a mark at all. -/
def groups (marks : List Mark) : List (List Mark) := (marks.splitOnP (· == separator)).filter (· ≠ [])

end Mark

def Word.marks : Word → List Mark
  | .bare t => if Token.isBlank t then [.separator] else .start :: t.map .char
  | .quoted t => .start :: t.map .char
  | .expansion t => t.map .ofValueChar

/-! ## Fields of a value -/

namespace Text

theorem fields_blank {c : Char} (hc : isBlank c = true) (r : Text) : fields (c :: r) = fields r := by
  rw [fields.eq_def]
  simp only [hc, if_true]

theorem fields_char {c : Char} (hc : isBlank c = false) (r : Text) :
    fields (c :: r) = if startsBlank r ∨ r = [] then [c] :: fields r else consHead c (fields r) := by
  rw [fields.eq_def]
  simp only [hc, Bool.false_eq_true, if_false]
  cases r with
  | nil => rfl
  | cons d r =>
    simp only [startsBlank, List.head?_cons, Option.any_some, List.cons_ne_nil, or_false]

theorem fields_ne_nil {r : Text} (hr : r ≠ []) (hstart : startsBlank r = false) : fields r ≠ [] := by
  obtain ⟨c, r, rfl⟩ := List.exists_cons_of_ne_nil hr
  rw [fields_char hstart]
  split
  · exact List.cons_ne_nil _ _
  · unfold consHead
    split
    · exact List.cons_ne_nil _ _
    · exact List.cons_ne_nil _ _

theorem endsBlank_cons (c : Char) {r : Text} (hr : r ≠ []) : endsBlank (c :: r) = endsBlank r := by
  obtain ⟨d, r, rfl⟩ := List.exists_cons_of_ne_nil hr
  rw [endsBlank, List.getLast?_cons_cons]
  rfl

/-- A value without fields is blank to its end. -/
theorem endsBlank_of_fields {r : Text} (hr : r ≠ []) (h : fields r = []) : endsBlank r = true := by
  induction r with
  | nil => contradiction
  | cons c r ih =>
    cases hc : isBlank c with
    | false => exact absurd h (fields_ne_nil hr hc)
    | true =>
      rw [fields_blank hc] at h
      by_cases hrest : r = []
      · subst hrest
        exact hc
      · rw [endsBlank_cons c hrest]
        exact ih hrest h

end Text

/-! ## Groups of marks -/

namespace Command

open Mark

def ofMarks (marks : List Mark) : List Text := (groups marks).map letters

def ofGroup (group : List Mark) : Option Text := if group = [] then none else some (letters group)

theorem ofGroup_append {group more : List Mark} (h : more ≠ []) :
    ofGroup (group ++ more) = extend (ofGroup group) (letters more) := by
  have hne : group ++ more ≠ [] := List.append_ne_nil_of_right_ne_nil _ h
  rw [ofGroup, if_neg hne, letters, List.filterMap_append, extend]
  cases group with
  | nil => rfl
  | cons m group => rfl

theorem ofMarks_separator {group : List Mark} (h : separator ∉ group) (marks : List Mark) :
    ofMarks (group ++ separator :: marks) = (ofGroup group).toList ++ ofMarks marks := by
  have hfree : ∀ m ∈ group, (m == separator) = false := fun m hm => beq_false_of_ne fun heq => h (heq ▸ hm)
  rw [ofMarks, groups, List.splitOnP_append_cons_of_forall_mem hfree _ (by rfl), ofGroup]
  by_cases hne : group = []
  · simp [hne, ofMarks, groups]
  · simp [hne, ofMarks, groups]

theorem ofMarks_group {group : List Mark} (h : separator ∉ group) : ofMarks group = (ofGroup group).toList := by
  have hfree : ∀ m ∈ group, (m == separator) = false := fun m hm => beq_false_of_ne fun heq => h (heq ▸ hm)
  rw [ofMarks, groups, List.splitOnP_eq_singleton hfree, ofGroup]
  by_cases hne : group = []
  · simp [hne]
  · simp [hne]

theorem letters_map_char (t : Text) : letters (t.map char) = t := by
  induction t with
  | nil => rfl
  | cons c t ih =>
    rw [List.map_cons, letters, List.filterMap_cons_some (by rfl)]
    exact congrArg (c :: ·) ih

/-! ## Values -/

theorem splice_nil (current : Option Text) : splice current [] = ([], current) := rfl

/-- A value that starts with a blank completes the argument, and goes on without one. -/
theorem splice_startsBlank {r : Text} (hstart : Text.startsBlank r = true) (current : Option Text) :
    splice current r = (current.toList ++ (splice none r).1, (splice none r).2) := by
  simp only [splice, hstart, if_true]
  split
  · simp
  · split
    · simp
    · simp

/-- A blank in front of the rest of a value completes the argument. -/
theorem splice_blank {c : Char} (hc : Text.isBlank c = true) (current : Option Text) (r : Text) :
    splice current (c :: r) = (current.toList ++ (splice none r).1, (splice none r).2) := by
  rw [splice_startsBlank (show Text.startsBlank (c :: r) = true from hc)]
  by_cases hr : r = []
  · subst hr
    simp [splice, Text.fields, hc]
  · have hnone : splice none (c :: r) = splice none r := by
      simp only [splice, Text.fields_blank hc, Text.endsBlank_cons c hr, ite_self, Option.toList_none]
    rw [hnone]

/-- Any other character goes on with it. -/
theorem splice_char {c : Char} (hc : Text.isBlank c = false) (current : Option Text) (r : Text) :
    splice current (c :: r) = splice (extend current [c]) r := by
  by_cases hr : r = []
  · subst hr
    simp [splice, Text.startsBlank, Text.endsBlank, hc, extend, Text.fields]
  · have hstart : Text.startsBlank (c :: r) = false := hc
    have hends := Text.endsBlank_cons c hr
    cases hrest : Text.startsBlank r with
    | true =>
      have hfields : Text.fields (c :: r) = [c] :: Text.fields r := by rw [Text.fields_char hc, if_pos (Or.inl hrest)]
      rw [splice_startsBlank hrest]
      cases hmore : Text.fields r with
      | nil => simp [splice, hstart, hfields, hmore, hends, Text.endsBlank_of_fields hr hmore, extend]
      | cons first more =>
        cases hend : Text.endsBlank r with
        | true => simp [splice, hstart, hfields, hmore, hends, hend, extend]
        | false => simp [splice, hstart, hfields, hmore, hends, hend, extend]
    | false =>
      obtain ⟨first, more, hmore⟩ := List.exists_cons_of_ne_nil (Text.fields_ne_nil hr hrest)
      have hfields : Text.fields (c :: r) = (c :: first) :: more := by
        rw [Text.fields_char hc, if_neg (by simp [hrest, hr]), hmore]
        rfl
      simp [splice, hstart, hrest, hfields, hmore, hends, extend]

/-! ## Words -/

/-- A value after the group of marks that is open: its marks go on with the group, up to the first
separator. -/
theorem splice_marks (value : Text) (rest : List Word) :
    ∀ group, separator ∉ group →
      (∀ group', separator ∉ group' → argumentsFrom (ofGroup group') rest = ofMarks (group' ++ rest.flatMap Word.marks)) →
      (splice (ofGroup group) value).1 ++ argumentsFrom (splice (ofGroup group) value).2 rest =
        ofMarks (group ++ (value.map ofValueChar ++ rest.flatMap Word.marks)) := by
  induction value with
  | nil =>
    intro group hgroup hrest
    rw [splice_nil]
    exact hrest group hgroup
  | cons c value ih =>
    intro group hgroup hrest
    cases hc : Text.isBlank c with
    | true =>
      have hmark : ofValueChar c = separator := if_pos hc
      have hnext := ih [] (by simp) hrest
      rw [splice_blank hc, List.map_cons, hmark, List.cons_append, ofMarks_separator hgroup, List.append_assoc]
      exact congrArg _ hnext
    | false =>
      have hmark : ofValueChar c = char c := if_neg (by simp [hc])
      have hfree : separator ∉ group ++ [char c] := by simp [hgroup]
      have hnext := ih (group ++ [char c]) hfree hrest
      rw [ofGroup_append (List.cons_ne_nil _ _)] at hnext
      rw [splice_char hc, List.map_cons, hmark]
      rw [List.append_assoc] at hnext
      exact hnext

/-- With a group of marks open, the arguments of words are those of the group and the marks that follow. -/
theorem argumentsFrom_marks (words : List Word) : ∀ group, separator ∉ group →
    argumentsFrom (ofGroup group) words = ofMarks (group ++ words.flatMap Word.marks) := by
  -- Only a separator completes the group, so it grows with every other word.
  induction words with
  | nil =>
    intro group hgroup
    rw [List.flatMap_nil, List.append_nil, ofMarks_group hgroup]
    rfl
  | cons w words ih =>
    intro group hgroup
    have literal : ∀ t, argumentsFrom (extend (ofGroup group) t) words =
        ofMarks (group ++ (start :: t.map char ++ words.flatMap Word.marks)) := by
      intro t
      have hfree : separator ∉ group ++ start :: t.map char := by simp [hgroup]
      have hletters : letters (start :: t.map char) = t := letters_map_char t
      have hnext := ih _ hfree
      rw [ofGroup_append (List.cons_ne_nil _ _), hletters, List.append_assoc] at hnext
      exact hnext
    rw [List.flatMap_cons]
    cases w with
    | bare t =>
      rw [argumentsFrom]
      cases ht : Token.isBlank t with
      | true =>
        have hmarks : (Word.bare t).marks = [separator] := if_pos ht
        have hnext := ih [] (by simp)
        rw [if_pos rfl, hmarks, List.singleton_append, ofMarks_separator hgroup]
        exact congrArg _ hnext
      | false =>
        have hmarks : (Word.bare t).marks = start :: t.map char := if_neg (by simp [ht])
        rw [if_neg (by simp), hmarks]
        exact literal t
    | quoted t => exact literal t
    | expansion value => exact splice_marks value words group hgroup ih

/-- Grouping words into arguments is reading their marks: each group of marks between separators is an
argument, and its text is the characters of the group. -/
theorem arguments_marks (words : List Word) : arguments words = ofMarks (words.flatMap Word.marks) :=
  argumentsFrom_marks words [] (by simp)

/-- A value joins its neighbours where no blank is between, and an empty value is no argument. -/
example : arguments [.bare ['a'], .expansion "b c ".toList, .bare ['d'], .expansion " e".toList, .expansion []] =
    ["ab".toList, ['c'], ['d'], ['e']] := by decide

end Command

end LineShell
