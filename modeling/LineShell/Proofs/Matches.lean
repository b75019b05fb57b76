import LineShell.Pattern.Matching

/-!
Where an expression matches. `Expr.Spans` says it one match at a time, from a place to a place, and
`Expr.ends` for sets of places. Both say the same: a round of a repetition that goes back to its place
can be left out or made once more, so rounds beyond the number of places change nothing.

  - `Rounds.shorter`, `Rounds.longer`, `rounds_min`: rounds that are more than the places between.
  - `follows_iterate`, `follows_spread`: repeated moves, also when they stop early.
  - `follows_ends`: the places that `ends` finds are those where a match ends.
  - `isMatch_iff`: there is a match exactly if one spans two places.
-/

namespace LineShell.Pattern

def charBefore (text : Text) : Nat → Option Char
  | 0 => none
  | i + 1 => text[i]?

def Rounds (R : Nat → Nat → Prop) : Nat → Nat → Nat → Prop
  | 0, i, j => i = j
  | n + 1, i, k => ∃ j, R i j ∧ Rounds R n j k

/-- Does the expression match what stands between two places of the text? -/
def Expr.Spans (text : Text) : Expr → Nat → Nat → Prop
  | empty, i, j => i = j
  | char c, i, j => text[i]? = some c ∧ j = i + 1
  | set s, i, j => text[i]?.any s.contains = true ∧ j = i + 1
  | place p, i, j => p.holds (charBefore text i) text[i]? = true ∧ i = j
  | capture e, i, j => e.Spans text i j
  | cat a b, i, k => ∃ j, a.Spans text i j ∧ b.Spans text j k
  | alt a b, i, j => a.Spans text i j ∨ b.Spans text i j
  | rep least most e, i, j =>
    ∃ more, (∀ m ∈ most, more ≤ m - least) ∧ Rounds (e.Spans text) (least + more) i j

/-! ## Rounds -/

section Rounds

variable {R : Nat → Nat → Prop} {n r i j k : Nat}

theorem rounds_add {m : Nat} : Rounds R (n + m) i k ↔ ∃ j, Rounds R n i j ∧ Rounds R m j k := by
  induction n generalizing i with
  | zero => simp [Rounds]
  | succ n ih =>
    rw [Nat.succ_add]
    constructor
    · rintro ⟨j, hij, hjk⟩
      obtain ⟨l, hjl, hlk⟩ := ih.mp hjk
      exact ⟨l, ⟨j, hij, hjl⟩, hlk⟩
    · rintro ⟨l, ⟨j, hij, hjl⟩, hlk⟩
      exact ⟨j, hij, ih.mpr ⟨l, hjl, hlk⟩⟩

theorem Rounds.le (hR : ∀ {i j}, R i j → i ≤ j) (h : Rounds R n i j) : i ≤ j := by
  induction n generalizing i with
  | zero => exact Nat.le_of_eq h
  | succ n ih =>
    obtain ⟨k, hik, hkj⟩ := h
    exact Nat.le_trans (hR hik) (ih hkj)

/-- With more rounds than places between, one round goes nowhere and can be left out. -/
theorem Rounds.shorter (hR : ∀ {i j}, R i j → i ≤ j) (h : Rounds R (n + 1) i j) (hn : j - i < n + 1) :
    Rounds R n i j := by
  induction n generalizing i with
  | zero =>
    have hij := h.le hR
    show i = j
    omega
  | succ n ih =>
    obtain ⟨k, hik, hkj⟩ := h
    have hle := hR hik
    by_cases heq : k = i
    · rwa [← heq]
    · have hkle := hkj.le hR
      exact ⟨k, hik, ih hkj (by omega)⟩

/-- Such a round can be made once more, too. -/
theorem Rounds.longer (hR : ∀ {i j}, R i j → i ≤ j) (h : Rounds R n i j) (hn : j - i < n) :
    Rounds R (n + 1) i j := by
  induction n generalizing i with
  | zero => exact absurd hn (Nat.not_lt_zero _)
  | succ n ih =>
    obtain ⟨k, hik, hkj⟩ := h
    have hle := hR hik
    by_cases heq : k = i
    · subst heq
      exact ⟨k, hik, k, hik, hkj⟩
    · have hkle := hkj.le hR
      exact ⟨k, hik, ih hkj (by omega)⟩

/-- Rounds beyond the number of places change nothing. -/
theorem rounds_min (hR : ∀ {i j}, R i j → i ≤ j) (hr : j - i < r) :
    Rounds R (min n r) i j ↔ Rounds R n i j := by
  induction n with
  | zero => rw [Nat.zero_min]
  | succ n ih =>
    by_cases hn : n + 1 ≤ r
    · rw [Nat.min_eq_left hn]
    · have hsame : min (n + 1) r = min n r := by omega
      rw [hsame, ih]
      exact ⟨fun h => h.longer hR (by omega), fun h => h.shorter hR (by omega)⟩

end Rounds

/-! ## Sets of places -/

namespace Places

def Has (places : Places) (i : Nat) : Prop := places[i]? = some true

theorem Has.lt {places : Places} {i : Nat} (h : places.Has i) : i < places.length :=
  (List.getElem?_eq_some_iff.mp h).1

theorem has_all {text : Text} {i : Nat} : (all text).Has i ↔ i < text.length + 1 := by
  simp [Has, all, List.getElem?_replicate]

theorem has_union {a b : Places} (h : a.length = b.length) {i : Nat} :
    (a.union b).Has i ↔ a.Has i ∨ b.Has i := by
  unfold Has union
  rw [List.getElem?_zipWith]
  by_cases hi : i < a.length
  · have hib : i < b.length := h ▸ hi
    simp [List.getElem?_eq_getElem hi, List.getElem?_eq_getElem hib]
  · have hib : ¬ i < b.length := h ▸ hi
    simp [List.getElem?_eq_none (Nat.le_of_not_lt hi), List.getElem?_eq_none (Nat.le_of_not_lt hib)]

theorem has_inter {a b : Places} {i : Nat} : (a.inter b).Has i ↔ a.Has i ∧ b.Has i := by
  unfold Has inter
  rw [List.getElem?_zipWith]
  cases a[i]? <;> cases b[i]? <;> simp

theorem has_after {marked : List Bool} {places : Places} {j : Nat} :
    (places.after marked).Has j ↔ ∃ i, places.Has i ∧ marked[i]? = some true ∧ j = i + 1 := by
  cases j with
  | zero => simp [Has, after]
  | succ j =>
    have hnext : (places.after marked).Has (j + 1) ↔ (Places.inter marked places).Has j := Iff.rfl
    rw [hnext, has_inter]
    constructor
    · rintro ⟨hmarked, hplaces⟩
      exact ⟨j, hplaces, hmarked, rfl⟩
    · rintro ⟨i, hplaces, hmarked, hi⟩
      obtain rfl : j = i := Nat.succ.inj hi
      exact ⟨hmarked, hplaces⟩

theorem length_holding (p : Place) (before : Option Char) (text : Text) :
    (holding p before text).length = text.length + 1 := by
  induction text generalizing before with
  | nil => rfl
  | cons c text ih => exact congrArg (· + 1) (ih (some c))

theorem has_holding {p : Place} {before : Option Char} {text : Text} {i : Nat} :
    (holding p before text).Has i ↔
      i < text.length + 1 ∧ p.holds ((charBefore text i).or (if i = 0 then before else none)) text[i]? = true := by
  induction text generalizing before i with
  | nil => cases i <;> simp [Has, holding, charBefore]
  | cons c text ih =>
    cases i with
    | zero => simp [Has, holding, charBefore]
    | succ i =>
      have htail : (holding p before (c :: text)).Has (i + 1) ↔ (holding p (some c) text).Has i := Iff.rfl
      rw [htail, ih]
      cases i <;> simp [charBefore]

/-! ## Moves -/

/-- A move of sets of `n` places goes from each place to those that `R` relates to it. -/
def Follows (n : Nat) (R : Nat → Nat → Prop) (move : Places → Places) : Prop :=
  ∀ places : Places, places.length = n →
    (move places).length = n ∧ ∀ j, (move places).Has j ↔ ∃ i, places.Has i ∧ R i j

variable {n : Nat} {R : Nat → Nat → Prop} {move : Places → Places} {places : Places}

/-- Rounds do not leave places that a move does not leave. -/
theorem has_of_rounds (hmove : Follows n R move) (hplaces : places.length = n)
    (hclosed : ∀ j, (move places).Has j → places.Has j) {k i j : Nat} (hi : places.Has i)
    (h : Rounds R k i j) : places.Has j := by
  induction k generalizing i with
  | zero => exact h ▸ hi
  | succ k ih =>
    obtain ⟨m, him, hmj⟩ := h
    exact ih (hclosed m (((hmove places hplaces).2 m).mpr ⟨i, hi, him⟩)) hmj

/-- A set that a move leaves as it is has been reached from itself, in any number of rounds. -/
theorem rounds_of_has (hmove : Follows n R move) (hplaces : places.length = n) (hsame : move places = places)
    (k : Nat) {j : Nat} (h : places.Has j) : ∃ i, places.Has i ∧ Rounds R k i j := by
  induction k generalizing j with
  | zero => exact ⟨j, h, rfl⟩
  | succ k ih =>
    have hmoved : (move places).Has j := by rwa [hsame]
    obtain ⟨m, hm, hmj⟩ := ((hmove places hplaces).2 j).mp hmoved
    obtain ⟨i, hi, him⟩ := ih hm
    exact ⟨i, hi, rounds_add.mpr ⟨m, him, j, hmj, rfl⟩⟩

/-- So many moves, even if they stop early, make so many rounds. -/
theorem follows_iterate (hmove : Follows n R move) (k : Nat) : Follows n (Rounds R k) (iterate move k) := by
  induction k with
  | zero =>
    intro places hplaces
    exact ⟨hplaces, fun j => by simp [iterate, Rounds]⟩
  | succ k ih =>
    intro places hplaces
    obtain ⟨hlength, hhas⟩ := hmove places hplaces
    by_cases hsame : move places = places
    · simp only [iterate, if_pos hsame]
      refine ⟨hplaces, fun j => ⟨fun h => rounds_of_has hmove hplaces hsame (k + 1) h, ?_⟩⟩
      rintro ⟨i, hi, hij⟩
      exact has_of_rounds hmove hplaces (fun j hj => hsame ▸ hj) hi hij
    · simp only [iterate, if_neg hsame]
      obtain ⟨hlength', hhas'⟩ := ih (move places) hlength
      refine ⟨hlength', fun j => ?_⟩
      rw [hhas' j]
      constructor
      · rintro ⟨m, hm, hmj⟩
        obtain ⟨i, hi, him⟩ := (hhas m).mp hm
        exact ⟨i, hi, m, him, hmj⟩
      · rintro ⟨i, hi, m, him, hmj⟩
        exact ⟨m, (hhas m).mpr ⟨i, hi, him⟩, hmj⟩

/-- Up to so many moves make up to so many rounds. -/
theorem follows_spread (hmove : Follows n R move) (k : Nat) :
    Follows n (fun i j => ∃ m, m ≤ k ∧ Rounds R m i j) (spread move k) := by
  induction k with
  | zero =>
    intro places hplaces
    refine ⟨hplaces, fun j => ⟨fun h => ⟨j, h, 0, Nat.le_refl 0, rfl⟩, ?_⟩⟩
    rintro ⟨i, hi, m, hm, hij⟩
    obtain rfl := Nat.le_zero.mp hm
    exact hij ▸ hi
  | succ k ih =>
    intro places hplaces
    obtain ⟨hlength, hhas⟩ := hmove places hplaces
    have hunion : ∀ j, (places.union (move places)).Has j ↔ places.Has j ∨ (move places).Has j :=
      fun j => has_union (hplaces.trans hlength.symm)
    by_cases hsame : places.union (move places) = places
    · simp only [spread, if_pos hsame]
      refine ⟨hplaces, fun j => ⟨fun h => ⟨j, h, 0, Nat.zero_le _, rfl⟩, ?_⟩⟩
      rintro ⟨i, hi, m, -, hij⟩
      exact has_of_rounds hmove hplaces (fun j hj => hsame ▸ (hunion j).mpr (Or.inr hj)) hi hij
    · simp only [spread, if_neg hsame]
      have hlengthUnion : (places.union (move places)).length = n := by
        simp [union, List.length_zipWith, hplaces, hlength]
      obtain ⟨hlength', hhas'⟩ := ih (places.union (move places)) hlengthUnion
      refine ⟨hlength', fun j => ?_⟩
      rw [hhas' j]
      constructor
      · rintro ⟨l, hl, m, hm, hlj⟩
        rcases (hunion l).mp hl with hl | hl
        · exact ⟨l, hl, m, Nat.le_succ_of_le hm, hlj⟩
        · obtain ⟨i, hi, hil⟩ := (hhas l).mp hl
          exact ⟨i, hi, m + 1, Nat.succ_le_succ hm, l, hil, hlj⟩
      · rintro ⟨i, hi, m, hm, hij⟩
        cases m with
        | zero => exact ⟨i, (hunion i).mpr (Or.inl hi), 0, Nat.zero_le k, hij⟩
        | succ m =>
          obtain ⟨l, hil, hlj⟩ := hij
          exact ⟨l, (hunion l).mpr (Or.inr ((hhas l).mpr ⟨i, hi, hil⟩)), m, Nat.le_of_succ_le_succ hm, hlj⟩

end Places

/-! ## Expressions -/

namespace Expr

variable {text : Text}

theorem Spans.bounds {e : Expr} {i j : Nat} (h : e.Spans text i j) :
    i ≤ j ∧ (i < text.length + 1 → j < text.length + 1) := by
  induction e generalizing i j with
  | empty => exact ⟨Nat.le_of_eq h, fun hi => h ▸ hi⟩
  | char c =>
    obtain ⟨hc, rfl⟩ := h
    have hi := (List.getElem?_eq_some_iff.mp hc).1
    exact ⟨Nat.le_succ i, fun _ => Nat.succ_lt_succ hi⟩
  | set s =>
    obtain ⟨hs, rfl⟩ := h
    have hi : i < text.length := by
      cases hget : text[i]? with
      | none => simp [hget] at hs
      | some c => exact (List.getElem?_eq_some_iff.mp hget).1
    exact ⟨Nat.le_succ i, fun _ => Nat.succ_lt_succ hi⟩
  | place p => exact ⟨Nat.le_of_eq h.2, fun hi => h.2 ▸ hi⟩
  | capture e ih => exact ih h
  | cat a b iha ihb =>
    obtain ⟨k, hik, hkj⟩ := h
    exact ⟨Nat.le_trans (iha hik).1 (ihb hkj).1, fun hi => (ihb hkj).2 ((iha hik).2 hi)⟩
  | alt a b iha ihb =>
    rcases h with h | h
    · exact iha h
    · exact ihb h
  | rep least most e ih =>
    obtain ⟨more, -, h⟩ := h
    generalize least + more = n at h
    induction n generalizing i with
    | zero => exact ⟨Nat.le_of_eq h, fun hi => h ▸ hi⟩
    | succ n ihn =>
      obtain ⟨k, hik, hkj⟩ := h
      exact ⟨Nat.le_trans (ih hik).1 (ihn hkj).1, fun hi => (ihn hkj).2 ((ih hik).2 hi)⟩

/-- The rounds that `ends` makes are enough. -/
theorem spans_rep {least : Nat} {most : Option Nat} {e : Expr} {i j : Nat} (hi : i < text.length + 1) :
    (rep least most e).Spans text i j ↔
      ∃ k, Rounds (e.Spans text) (min least (text.length + 1)) i k ∧
        ∃ m, (m ≤ match most with
          | some most => min (most - least) (text.length + 1)
          | none => text.length + 1) ∧ Rounds (e.Spans text) m k j := by
  have hforward : ∀ {i j}, e.Spans text i j → i ≤ j := fun h => h.bounds.1
  have hwithin : ∀ {n i j}, i < text.length + 1 → Rounds (e.Spans text) n i j → j < text.length + 1 := by
    intro n i j hi h
    exact (Spans.bounds (e := rep n (some n) e) ⟨0, by simp, h⟩).2 hi
  constructor
  · rintro ⟨more, hmore, h⟩
    obtain ⟨k, hik, hkj⟩ := rounds_add.mp h
    have hk := hwithin hi hik
    have hj := hwithin hk hkj
    refine ⟨k, (rounds_min hforward (by omega)).mpr hik, min more (text.length + 1), ?_,
      (rounds_min hforward (by omega)).mpr hkj⟩
    cases most with
    | none => exact Nat.min_le_right _ _
    | some most =>
      have hle := hmore most rfl
      simp only
      omega
  · rintro ⟨k, hik, m, hm, hkj⟩
    have hk := hwithin hi hik
    refine ⟨m, ?_, rounds_add.mpr ⟨k, (rounds_min hforward (by omega)).mp hik, hkj⟩⟩
    rintro most rfl
    simp only at hm
    omega

/-- From the places where a match can start, those are found where it can end. -/
theorem follows_ends (e : Expr) : Places.Follows (text.length + 1) (e.Spans text) (e.ends text) := by
  induction e with
  | empty =>
    intro places hplaces
    exact ⟨hplaces, fun j => by simp [ends, Spans]⟩
  | char c =>
    intro places hplaces
    refine ⟨by simp [ends, Places.after, hplaces], fun j => ?_⟩
    simp only [ends, Places.has_after, Spans, List.getElem?_map]
    simp
  | set s =>
    intro places hplaces
    refine ⟨by simp [ends, Places.after, hplaces], fun j => ?_⟩
    simp only [ends, Places.has_after, Spans, List.getElem?_map]
    refine exists_congr fun i => and_congr_right fun _ => and_congr_left fun _ => ?_
    cases text[i]? <;> simp
  | place p =>
    intro places hplaces
    refine ⟨by simp [ends, Places.inter, Places.length_holding, hplaces], fun j => ?_⟩
    simp only [ends, Places.has_inter, Places.has_holding, Spans, ite_self, Option.or_none]
    constructor
    · rintro ⟨hj, -, hp⟩
      exact ⟨j, hj, hp, rfl⟩
    · rintro ⟨i, hi, hp, rfl⟩
      exact ⟨hi, hplaces ▸ hi.lt, hp⟩
  | capture e ih => exact ih
  | cat a b iha ihb =>
    intro places hplaces
    obtain ⟨hlength, ha⟩ := iha places hplaces
    obtain ⟨hlength', hb⟩ := ihb (a.ends text places) hlength
    refine ⟨hlength', fun k => (hb k).trans ?_⟩
    constructor
    · rintro ⟨j, hj, hjk⟩
      obtain ⟨i, hi, hij⟩ := (ha j).mp hj
      exact ⟨i, hi, j, hij, hjk⟩
    · rintro ⟨i, hi, j, hij, hjk⟩
      exact ⟨j, (ha j).mpr ⟨i, hi, hij⟩, hjk⟩
  | alt a b iha ihb =>
    intro places hplaces
    obtain ⟨hlength, ha⟩ := iha places hplaces
    obtain ⟨hlength', hb⟩ := ihb places hplaces
    refine ⟨by simp [ends, Places.union, hlength, hlength'], fun j => ?_⟩
    simp only [ends, Places.has_union (hlength.trans hlength'.symm), ha, hb, Spans]
    rw [← exists_or]
    exact exists_congr fun i => and_or_left.symm
  | rep least most e ih =>
    intro places hplaces
    obtain ⟨hlength, hleast⟩ := Places.follows_iterate ih (min least (text.length + 1)) places hplaces
    obtain ⟨hlength', hmore⟩ := Places.follows_spread ih _ _ hlength
    refine ⟨hlength', fun j => (hmore j).trans ?_⟩
    constructor
    · rintro ⟨k, hk, m, hm, hkj⟩
      obtain ⟨i, hi, hik⟩ := (hleast k).mp hk
      exact ⟨i, hi, (spans_rep (hplaces ▸ hi.lt)).mpr ⟨k, hik, m, hm, hkj⟩⟩
    · rintro ⟨i, hi, hij⟩
      obtain ⟨k, hik, m, hm, hkj⟩ := (spans_rep (hplaces ▸ hi.lt)).mp hij
      exact ⟨k, (hleast k).mpr ⟨i, hi, hik⟩, m, hm, hkj⟩

/-- There is a match exactly if the expression matches between two places. -/
theorem isMatch_iff {e : Expr} : e.isMatch text = true ↔ ∃ i j, i ≤ text.length ∧ e.Spans text i j := by
  obtain ⟨-, hends⟩ := follows_ends e (Places.all text) (List.length_replicate ..)
  have hmember : e.isMatch text = true ↔ ∃ j, (e.ends text (Places.all text)).Has j := by
    rw [isMatch, List.contains_iff_mem]
    exact List.mem_iff_getElem?
  rw [hmember, exists_comm]
  refine exists_congr fun j => (hends j).trans ?_
  refine exists_congr fun i => and_congr_left fun _ => ?_
  rw [Places.has_all]
  exact Nat.lt_succ_iff

end Expr

end LineShell.Pattern
