import LineShell.Proofs.Passes

/-!
Stages put together. Cutting words into stages is undone by putting an unquoted `|` between the stages, and
undoes it; there is no other way to cut the words. A loop that gathers the words from the left finds the same
stages. What it has gathered, put together, is what it has read, and that carries all of it.

  - `join?_concat`: the words of stages put together, by the last stage.
  - `split_of_join?`: stages without separators are what cutting makes of them once they are put together.
  - `step_holds` / `foldl_holds`: what the loop keeps from one word to the next, and so over all words.
  - `gather_eq_split`: the loop gathers the stages that cutting gives.
  - `length_split`: a stage more than there are separators.
  - `split_inverts_join`: all of it, for all words and all stages.
-/

namespace LineShell

theorem Word.isPipe_iff {w : Word} : w.isPipe = true ↔ w = .bare ['|'] := by
  cases w with
  | bare t => simp [isPipe]
  | quoted t => simp [isPipe]
  | expansion t => simp [isPipe]

namespace Stage

def Whole (stage : Stage) : Prop := ∀ w ∈ stage.words, w.isPipe = false

instance : DecidablePred Whole := fun stage => inferInstanceAs (Decidable (∀ w ∈ stage.words, w.isPipe = false))

/-- The words of stages, with one unquoted `|` between neighbours. Without a stage there is nothing to put
together: words always have one stage more than they have separators. -/
def join? : List Stage → Option (List Word)
  | [] => none
  | [stage] => some stage.words
  | stage :: stages => (join? stages).map (stage.words ++ .bare ['|'] :: ·)

/-- The words of stages that are all ended, each by a separator. -/
def ended (stages : List Stage) : List Word := stages.flatMap fun stage => stage.words ++ [.bare ['|']]

variable {stages : List Stage} {words : List Word}

/-! ## Stages put together -/

theorem join?_cons (h : stages ≠ []) (stage : Stage) :
    join? (stage :: stages) = (join? stages).map (stage.words ++ .bare ['|'] :: ·) := by
  cases stages with
  | nil => exact absurd rfl h
  | cons => rfl

theorem ended_concat (stages : List Stage) (stage : Stage) :
    ended (stages ++ [stage]) = ended stages ++ (stage.words ++ [.bare ['|']]) := by
  rw [ended, List.flatMap_append, List.flatMap_singleton, ended]

/-- Every stage but the last is ended by a separator. -/
theorem join?_concat (front : List Stage) (last : Stage) : join? (front ++ [last]) = some (ended front ++ last.words) := by
  induction front with
  | nil => rfl
  | cons stage front ih =>
    have hne : front ++ [last] ≠ [] := by simp
    rw [List.cons_append, join?_cons hne, ih, Option.map_some, ended, ended, List.flatMap_cons]
    simp only [List.append_assoc, List.cons_append, List.nil_append]

theorem exists_join? (h : stages ≠ []) : ∃ words, join? stages = some words := by
  obtain ⟨front, last, rfl⟩ := (List.eq_nil_or_concat' stages).resolve_left h
  exact ⟨_, join?_concat front last⟩

/-- Stages without separators are what cutting makes of them once they are put together. -/
theorem split_of_join? (hwhole : ∀ stage ∈ stages, stage.Whole) (hjoin : join? stages = some words) :
    split words = stages := by
  induction stages generalizing words with
  | nil => cases hjoin
  | cons stage stages ih =>
    obtain ⟨hstage, hstages⟩ := List.forall_mem_cons.mp hwhole
    by_cases hne : stages = []
    · subst hne
      cases hjoin
      exact split_of_no_pipe hstage
    · rw [join?_cons hne] at hjoin
      obtain ⟨rest, hrest, rfl⟩ := Option.map_eq_some_iff.mp hjoin
      rw [split_append_pipe hstage rfl, ih hstages hrest]

/-! ## The loop -/

/-- The stages that are complete, and the words of the one that is not. -/
structure Gathering where
  complete : List Stage := []
  current : List Word := []
  deriving DecidableEq, Repr

namespace Gathering

/-- Take in a word. An unquoted `|` completes the stage; any other word belongs to it. -/
def step (state : Gathering) (word : Word) : Gathering :=
  if word.isPipe then { complete := state.complete ++ [⟨state.current⟩], current := [] }
  else { state with current := state.current ++ [word] }

def all (state : Gathering) : List Stage := state.complete ++ [⟨state.current⟩]

/-- What is gathered has no separators left, and put together it is what was read. -/
structure Holds (read : List Word) (state : Gathering) : Prop where
  whole : ∀ stage ∈ state.all, stage.Whole
  join_eq : join? state.all = some read

variable {state : Gathering} {read : List Word}

theorem Holds.read_eq (h : state.Holds read) : read = ended state.complete ++ state.current := by
  have hjoin := h.join_eq
  rw [all, join?_concat] at hjoin
  exact (Option.some.inj hjoin).symm

/-- One word more, and it holds of what is read then. -/
theorem step_holds (h : state.Holds read) (word : Word) : (state.step word).Holds (read ++ [word]) := by
  obtain ⟨hcomplete, hcurrent⟩ := List.forall_mem_append.mp h.whole
  rw [h.read_eq]
  cases hword : word.isPipe with
  | true =>
    -- the stage so far is complete, and the next one is empty
    obtain rfl := Word.isPipe_iff.mp hword
    have hall : (state.step (.bare ['|'])).all = state.all ++ [⟨[]⟩] := by
      rw [step, if_pos hword]
      rfl
    refine ⟨?_, ?_⟩
    · rw [hall]
      refine List.forall_mem_append.mpr ⟨h.whole, ?_⟩
      simp [Whole]
    · rw [hall, join?_concat, all, ended_concat, List.append_nil, List.append_assoc]
  | false =>
    have hall : (state.step word).all = state.complete ++ [⟨state.current ++ [word]⟩] := by
      rw [step, if_neg (by simp [hword])]
      rfl
    refine ⟨?_, ?_⟩
    · rw [hall]
      refine List.forall_mem_append.mpr ⟨hcomplete, List.forall_mem_singleton.mpr ?_⟩
      exact List.forall_mem_append.mpr ⟨List.forall_mem_singleton.mp hcurrent, List.forall_mem_singleton.mpr hword⟩
    · rw [hall, join?_concat, List.append_assoc]

/-- So it holds of all words. -/
theorem foldl_holds (h : state.Holds read) (words : List Word) : (words.foldl step state).Holds (read ++ words) := by
  induction words generalizing state read with
  | nil => rwa [List.append_nil]
  | cons word words ih =>
    have hrest := ih (step_holds h word)
    rwa [List.append_assoc] at hrest

end Gathering

/-- Cut at every unquoted `|`, word by word from the left. -/
def gather (words : List Word) : List Stage := (words.foldl Gathering.step {}).all

theorem gather_holds (words : List Word) : Gathering.Holds words (words.foldl Gathering.step {}) := by
  have hstart : Gathering.Holds [] {} := ⟨by simp [Gathering.all, Whole], rfl⟩
  exact Gathering.foldl_holds hstart words

/-- The stages that are gathered are those that cutting gives, as there are no others. -/
theorem gather_eq_split (words : List Word) : gather words = split words :=
  (split_of_join? (gather_holds words).whole (gather_holds words).join_eq).symm

/-! ## Cutting -/

theorem whole_split (words : List Word) : ∀ stage ∈ split words, stage.Whole := by
  rw [← gather_eq_split]
  exact (gather_holds words).whole

theorem join?_split (words : List Word) : join? (split words) = some words := by
  rw [← gather_eq_split]
  exact (gather_holds words).join_eq

theorem length_split (words : List Word) : (split words).length = words.countP Word.isPipe + 1 := by
  induction words with
  | nil => rfl
  | cons word words ih =>
    cases hword : word.isPipe with
    | true => rw [split_pipe hword, List.length_cons, ih, List.countP_cons_of_pos hword]
    | false =>
      obtain ⟨first, more, hsplit⟩ := List.exists_cons_of_ne_nil (split_ne_nil words)
      rw [split_other hword, List.countP_cons_of_neg (by simp [hword]), ← ih, hsplit]
      rfl

/-- **Exact inverse.** The stages of words have no unquoted `|` in them, with one between neighbours they are
the words, and no other stages are so. Conversely, stages without an unquoted `|`, empty or not, can be put
together if there are any, and cutting the words gives them back. Gathering the words from the left gives the
same stages. -/
theorem split_inverts_join :
    (∀ words : List Word,
      (∀ stage ∈ split words, stage.Whole) ∧ join? (split words) = some words ∧
        ∀ stages : List Stage, (∀ stage ∈ stages, stage.Whole) → join? stages = some words → stages = split words) ∧
    (∀ stages : List Stage, stages ≠ [] → (∀ stage ∈ stages, stage.Whole) →
      ∃ words, join? stages = some words ∧ split words = stages) ∧
    ∀ words : List Word, gather words = split words := by
  refine ⟨fun words => ⟨whole_split words, join?_split words, ?_⟩, ?_, gather_eq_split⟩
  · intro stages hwhole hjoin
    exact (split_of_join? hwhole hjoin).symm
  · intro stages hne hwhole
    obtain ⟨words, hjoin⟩ := exists_join? hne
    exact ⟨words, hjoin, split_of_join? hwhole hjoin⟩

/-- Empty stages at both ends and inside, and texts that are a `|` in quotes or from a variable. -/
def sparse : List Stage := [⟨[]⟩, ⟨[.quoted ['|'], .bare "||".toList]⟩, ⟨[]⟩, ⟨[.expansion ['|']]⟩, ⟨[]⟩]

theorem split_inverts_join_sparse :
    let words : List Word := [.bare ['|'], .quoted ['|'], .bare "||".toList, .bare ['|'], .bare ['|'],
      .expansion ['|'], .bare ['|']]
    sparse ≠ [] ∧ (∀ stage ∈ sparse, stage.Whole) ∧ join? sparse = some words ∧ sparse = split words ∧
      ∃ again, join? sparse = some again ∧ split again = sparse := by
  intro words
  obtain ⟨hcut, hput, -⟩ := split_inverts_join
  have hwhole : ∀ stage ∈ sparse, stage.Whole := by decide
  have hjoin : join? sparse = some words := by decide
  exact ⟨by decide, hwhole, hjoin, (hcut words).2.2 sparse hwhole hjoin, hput sparse (by decide) hwhole⟩

end Stage

end LineShell
