import LineShell.Machine
import LineShell.Proofs.Lines

/-!
How a relative path may be written. It has a first component, and behind it every other one after a slash;
more slashes, and the name of the directory itself, may stand wherever a slash may. So a path has only one
list of components, and a list of directories only one list of entries.

  - `splitAt_eq_iff`: the pieces between separators are the only ones that joined give the text.
  - `parts_append` / `parts_join`: the parts of a path, one by one, and of a path that is followed from another.
  - `spells_iff`: the spellings are those paths of which these are the components.
  - `spelling_cases`: a path is empty, absolute, a single component, or several.
-/

namespace LineShell

/-! ## Pieces -/

namespace Text

variable {c : Char} {a text : Text} {pieces : List Text}

theorem splitAt_ne_nil (c : Char) (text : Text) : splitAt c text ≠ [] := by
  cases text with
  | nil => simp [splitAt]
  | cons d r =>
    rw [splitAt]
    split
    · exact List.cons_ne_nil _ _
    · exact consHead_ne_nil d _

theorem splitAt_append (c : Char) (a r : Text) : splitAt c (a ++ c :: r) = splitAt c a ++ splitAt c r := by
  induction a with
  | nil => simp [splitAt]
  | cons d a ih =>
    rw [List.cons_append, splitAt, splitAt, ih]
    split
    · rfl
    · exact consHead_append d (splitAt_ne_nil c a) _

theorem splitAt_of_notMem (h : c ∉ a) : splitAt c a = [a] := by
  induction a with
  | nil => rfl
  | cons d a ih =>
    simp only [List.mem_cons, not_or] at h
    rw [splitAt, if_neg (Ne.symm h.1), ih h.2]
    rfl

theorem separator_induction (c : Char) {P : Text → Prop} (whole : ∀ a, c ∉ a → P a)
    (cut : ∀ a r, c ∉ a → P r → P (a ++ c :: r)) (text : Text) : P text := by
  induction text using (measure List.length).wf.induction with
  | _ text ih =>
  by_cases h : c ∈ text
  · obtain ⟨a, r, rfl, ha⟩ := List.eq_append_cons_of_mem h
    have hlt : r.length < (a ++ c :: r).length := by
      rw [List.length_append, List.length_cons]
      omega
    exact cut a r ha (ih r hlt)
  · exact whole text h

theorem splitAt_cut (h : c ∉ a) (r : Text) : splitAt c (a ++ c :: r) = a :: splitAt c r := by
  rw [splitAt_append, splitAt_of_notMem h]
  rfl

theorem join_splitAt (c : Char) (text : Text) : join [c] (splitAt c text) = text := by
  induction text using separator_induction c with
  | whole a h =>
    rw [splitAt_of_notMem h]
    rfl
  | cut a r h ih =>
    rw [splitAt_cut h, join_cons _ _ (splitAt_ne_nil c r), ih]
    simp

theorem notMem_of_mem_splitAt (c : Char) (text : Text) : ∀ piece ∈ splitAt c text, c ∉ piece := by
  induction text using separator_induction c with
  | whole a h =>
    rw [splitAt_of_notMem h]
    simpa using h
  | cut a r h ih =>
    rw [splitAt_cut h]
    intro piece hpiece
    rcases List.mem_cons.mp hpiece with rfl | hpiece
    · exact h
    · exact ih piece hpiece

theorem splitAt_join (hne : pieces ≠ []) (h : ∀ piece ∈ pieces, c ∉ piece) : splitAt c (join [c] pieces) = pieces := by
  induction pieces with
  | nil => exact absurd rfl hne
  | cons a pieces ih =>
    have ha := h a List.mem_cons_self
    by_cases hnil : pieces = []
    · rw [hnil]
      exact splitAt_of_notMem ha
    · rw [join_cons _ _ hnil, List.append_assoc, List.singleton_append, splitAt_cut ha,
        ih hnil fun piece hpiece => h piece (List.mem_cons_of_mem a hpiece)]

/-- The pieces are the only texts without the separator that give the text when they are joined with it. -/
theorem splitAt_eq_iff :
    splitAt c text = pieces ↔ pieces ≠ [] ∧ (∀ piece ∈ pieces, c ∉ piece) ∧ join [c] pieces = text := by
  constructor
  · rintro rfl
    exact ⟨splitAt_ne_nil c text, notMem_of_mem_splitAt c text, join_splitAt c text⟩
  · rintro ⟨hne, hpieces, rfl⟩
    exact splitAt_join hne hpieces

end Text

namespace Path

/-! ## Parts -/

/-- What may stand between two slashes. -/
def IsPart (name : Text) : Prop := name ≠ [] ∧ '/' ∉ name

instance : DecidablePred IsPart := fun name => inferInstanceAs (Decidable (name ≠ [] ∧ '/' ∉ name))

variable {path dir name first tail : Text} {components rest : List Text}

theorem parts_slash (r : Text) : parts ('/' :: r) = parts r := by simp [parts, Text.splitAt]

theorem parts_cut (a r : Text) : parts (a ++ '/' :: r) = parts a ++ parts r := by
  rw [parts, Text.splitAt_append, List.filter_append]
  rfl

theorem parts_isPart (h : IsPart name) : parts name = [name] := by
  rw [parts, Text.splitAt_of_notMem h.2]
  simp [h.1]

/-- A part reaches up to the slash behind it. -/
theorem parts_append (h : IsPart name) (htail : ∀ c ∈ tail.head?, c = '/') : parts (name ++ tail) = name :: parts tail := by
  cases tail with
  | nil =>
    rw [List.append_nil, parts_isPart h]
    rfl
  | cons c r =>
    obtain rfl : c = '/' := htail c rfl
    rw [parts_cut, parts_isPart h, parts_slash]
    rfl

theorem join_relative (hrel : isAbsolute path = false) (hdir : dir ≠ []) :
    join dir path = if dir.getLast? = some '/' then dir ++ path else dir ++ '/' :: path := by
  simp [join, hrel, hdir]

theorem parts_join (hrel : isAbsolute path = false) (hdir : dir ≠ []) :
    parts (join dir path) = parts dir ++ parts path := by
  rw [join_relative hrel hdir]
  split
  · rename_i hslash
    obtain ⟨start, rfl⟩ := List.getLast?_eq_some_iff.mp hslash
    rw [List.append_assoc, List.singleton_append, parts_cut, parts_cut]
    simp [parts, Text.splitAt]
  · exact parts_cut dir path

/-! ## Components -/

/-- How the components behind the first one are written. -/
inductive Trail : Text → List Text → Prop
  | nil : Trail [] []
  /-- One slash more, between components or at the end. -/
  | slash {tail : Text} {rest : List Text} : Trail tail rest → Trail ('/' :: tail) rest
  /-- The directory that has been reached. -/
  | stay {tail : Text} {rest : List Text} : Trail tail rest → Trail ('/' :: (here ++ tail)) rest
  | component {name tail : Text} {rest : List Text} :
      IsPart name → name ≠ here → Trail tail rest → Trail ('/' :: (name ++ tail)) (name :: rest)

/-- How a relative path with these components is written. -/
inductive Spells : Text → List Text → Prop
  | mk {first tail : Text} {rest : List Text} : IsPart first → Trail tail rest → Spells (first ++ tail) (first :: rest)

theorem Trail.head (h : Trail tail rest) : ∀ c ∈ tail.head?, c = '/' := by
  cases h with
  | nil => nofun
  | slash _ | stay _ | component _ _ _ =>
    intro c hc
    exact (Option.some.inj hc).symm

theorem isPart_here : IsPart here := by decide

/-- The parts behind the first one, without those that stay. -/
theorem Trail.filter_parts (h : Trail tail rest) : (parts tail).filter (· ≠ here) = rest := by
  induction h with
  | nil => rfl
  | slash _ ih => rw [parts_slash, ih]
  | stay h ih =>
    rw [parts_slash, parts_append isPart_here h.head, List.filter_cons_of_neg (by simp), ih]
  | component hname hne h ih =>
    rw [parts_slash, parts_append hname h.head, List.filter_cons_of_pos (by simpa using hne), ih]

/-- A text up to its first slash, and what follows from there. -/
theorem exists_part (text : Text) : ∃ name tail, text = name ++ tail ∧ '/' ∉ name ∧ ∀ c ∈ tail.head?, c = '/' := by
  by_cases h : '/' ∈ text
  · obtain ⟨name, r, rfl, hname⟩ := List.eq_append_cons_of_mem h
    exact ⟨name, '/' :: r, rfl, hname, fun c hc => (Option.some.inj hc).symm⟩
  · exact ⟨text, [], (List.append_nil text).symm, h, nofun⟩

/-- Whatever stands behind a part is such a trail. -/
theorem trail_parts (n : Nat) : ∀ tail : Text, tail.length ≤ n → (∀ c ∈ tail.head?, c = '/') →
    Trail tail ((parts tail).filter (· ≠ here)) := by
  induction n with
  | zero =>
    intro tail hlen _
    obtain rfl : tail = [] := List.eq_nil_of_length_eq_zero (by omega)
    exact .nil
  | succ n ih =>
    intro tail hlen hhead
    cases tail with
    | nil => exact .nil
    | cons c r =>
      obtain rfl : c = '/' := hhead c rfl
      rw [List.length_cons] at hlen
      obtain ⟨name, tail, rfl, hname, htail⟩ := exists_part r
      rw [List.length_append] at hlen
      rw [parts_slash]
      by_cases hnil : name = []
      · subst hnil
        exact .slash (ih tail (by omega) htail)
      · have hpart : IsPart name := ⟨hnil, hname⟩
        have hrest := ih tail (by omega) htail
        rw [parts_append hpart htail]
        by_cases hhere : name = here
        · subst hhere
          rw [List.filter_cons_of_neg (by simp)]
          exact .stay hrest
        · rw [List.filter_cons_of_pos (by simpa using hhere)]
          exact .component hpart hhere hrest

theorem IsPart.isAbsolute_append (h : IsPart name) (tail : Text) : isAbsolute (name ++ tail) = false := by
  obtain ⟨c, r, rfl⟩ := List.exists_cons_of_ne_nil h.1
  have hc : c ≠ '/' := fun hc => h.2 (hc ▸ List.mem_cons_self)
  simp [isAbsolute, hc]

theorem IsPart.relative (h : IsPart name) : isAbsolute name = false := by
  rw [← List.append_nil name]
  exact h.isAbsolute_append []

theorem Spells.relative (h : Spells path components) : isAbsolute path = false ∧ path ≠ [] := by
  cases h with
  | mk hfirst _ => exact ⟨hfirst.isAbsolute_append _, List.append_ne_nil_of_left_ne_nil hfirst.1 _⟩

theorem components_of_spells (h : Spells path components) : Path.components path = components := by
  have hrel := h.relative.1
  cases h with
  | mk hfirst htail =>
    rw [Path.components, parts_append hfirst htail.head]
    simp only [hrel, Bool.false_and, Bool.false_eq_true, if_false, htail.filter_parts]

theorem spells_components (hrel : isAbsolute path = false) (hne : path ≠ []) : Spells path (Path.components path) := by
  obtain ⟨first, tail, rfl, hfirst, htail⟩ := exists_part path
  have hnil : first ≠ [] := by
    rintro rfl
    cases tail with
    | nil => exact hne rfl
    | cons c r =>
      obtain rfl : c = '/' := htail c rfl
      cases hrel
  have hspells : Spells (first ++ tail) (first :: (parts tail).filter (· ≠ here)) :=
    .mk ⟨hnil, hfirst⟩ (trail_parts tail.length tail (Nat.le_refl _) htail)
  rw [components_of_spells hspells]
  exact hspells

theorem parts_ne_nil (hrel : isAbsolute path = false) (hne : path ≠ []) : parts path ≠ [] := by
  have h := spells_components hrel hne
  generalize Path.components path = components at h
  cases h with
  | mk hfirst htail =>
    rw [parts_append hfirst htail.head]
    exact List.cons_ne_nil _ _

/-- A path that is relative and not empty is a spelling of its components, and of no others. -/
theorem spells_iff : Spells path components ↔ isAbsolute path = false ∧ path ≠ [] ∧ Path.components path = components := by
  constructor
  · intro h
    exact ⟨h.relative.1, h.relative.2, components_of_spells h⟩
  · rintro ⟨hrel, hne, rfl⟩
    exact spells_components hrel hne

theorem spelling_cases (path : Text) :
    path = [] ∨ isAbsolute path = true ∨ (∃ component, Spells path [component]) ∨
      ∃ first second rest, Spells path (first :: second :: rest) := by
  by_cases hne : path = []
  · exact Or.inl hne
  cases hrel : isAbsolute path with
  | true => exact Or.inr (Or.inl rfl)
  | false =>
    have h := spells_components hrel hne
    match hcomponents : Path.components path, h with
    | [component], h => exact Or.inr (Or.inr (Or.inl ⟨component, h⟩))
    | first :: second :: rest, h => exact Or.inr (Or.inr (Or.inr ⟨first, second, rest, h⟩))

def FromHere (path : Text) : Prop := ∃ rest, Spells path (here :: rest)

theorem startsHere_iff : startsHere path = true ↔ FromHere path := by
  unfold FromHere
  simp only [startsHere, Bool.and_eq_true, Bool.not_eq_true', beq_iff_eq]
  constructor
  · rintro ⟨hrel, hhead⟩
    obtain ⟨rest, hcomponents⟩ := List.head?_eq_some_iff.mp hhead
    have hne : path ≠ [] := by
      rintro rfl
      cases hhead
    exact ⟨rest, spells_iff.mpr ⟨hrel, hne, hcomponents⟩⟩
  · rintro ⟨rest, h⟩
    exact ⟨h.relative.1, by rw [components_of_spells h]; rfl⟩

theorem FromHere.eq_here (h : FromHere path) (hslash : '/' ∉ path) : path = here := by
  obtain ⟨rest, hspells⟩ := h
  cases hspells with
  | mk hfirst htail =>
    cases htail with
    | nil => rw [List.append_nil]
    | slash _ | stay _ | component _ _ _ => exact absurd (List.mem_append_right _ List.mem_cons_self) hslash

theorem Spells.slash_mem {second : Text} (h : Spells path (first :: second :: rest)) : '/' ∈ path := by
  cases h with
  | mk _ htail =>
    have hne : ∀ {tail rest}, Trail tail rest → rest ≠ [] → '/' ∈ tail := by
      intro tail rest h hrest
      cases h with
      | nil => exact absurd rfl hrest
      | slash _ | stay _ | component _ _ _ => exact List.mem_cons_self
    exact List.mem_append_right _ (hne htail (List.cons_ne_nil _ _))

end Path

end LineShell
