import LineShell.Pattern.Repetition
import LineShell.Proofs.Tracking.Escape
import Mathlib.Data.List.TakeDrop

/-!
Repetitions before a tail. A count between braces is refused without its closing brace, which the tail does
not have, and a sign may have a question mark after it, which the tail does not start with.
-/

namespace LineShell.Pattern

open Reader ReadState

/-! ## What is repeated -/

/-- Can the pattern be repeated? Flags and nothing cannot be. -/
def Tree.isOperand : Tree → Bool
  | .empty _ | .flags .. => false
  | _ => true

theorem Tree.Same.isOperand_eq {t u : Tree} (h : t.Same u) : t.isOperand = u.isOperand := by
  have hbare : ∀ t : Tree, t.bare.isOperand = t.isOperand := fun t => by cases t <;> rfl
  rw [← hbare t, ← hbare u, h]

theorem Repetition.blanks_eq :
    blanks = modify fun s => { s with
      rest := s.rest.dropWhile Text.isBlank
      mark := (s.rest.takeWhile Text.isBlank).foldl Mark.after s.mark } := by
  unfold blanks
  simp only [List.span_eq_takeWhile_dropWhile]
  rfl

theorem Repetition.operand_cons (item : Tree) (items : List Tree) :
    operand (item :: items) = if item.isOperand then return (item, items) else failHere .repetitionMissing := by
  cases item <;> rfl

/-! ## Counts at the closer -/

namespace Ends

variable {t : ReadState}

theorem number (ht : t.rest = closer) :
    Ends (fun n u => (∃ c, n = .error c) ∧ u.rest = closer) Repetition.number t := by
  obtain ⟨rest, mark, verbose, names⟩ := t
  subst ht
  exact of_ok rfl ⟨⟨_, rfl⟩, rfl⟩

theorem lift_error (c : Complaint) : Fails (liftM (Except.error c : Except Complaint Nat) : Reader Nat) :=
  fun _ => of_error rfl

theorem lift {β : Type} {L : β → ReadState → Prop} {F : Nat → Reader β} {n : Nat} (h : Ends L (F n) t) :
    Ends L ((liftM (Except.ok n : Except Complaint Nat) : Reader Nat) >>= F) t := h

theorem count (brace : Mark) (ht : t.rest = closer) : Ends Never (Repetition.count brace) t := by
  refine (number ht).bind ?_
  rintro _ u ⟨⟨c, rfl⟩, hu⟩
  refine char ?_
  rw [hu]
  exact of_fails ((lift_error c).bind _)

theorem operand (items : List Tree) : Ends (fun _ u => u = t) (Repetition.operand items) t := by
  cases items with
  | nil => exact of_fails (Fails.failHere _)
  | cons item more =>
    rw [Repetition.operand_cons]
    exact ite (fun _ => pure rfl) fun _ => of_fails (Fails.failHere _)

/-- There is no count between a brace and the closer. -/
theorem byCount (items : List Tree) (ht : t.advance.skip.rest = closer) :
    Ends Never (Repetition.byCount items) t := by
  refine (operand items).bind ?_
  rintro ⟨item, more⟩ _ rfl
  refine here fun brace => step (unlessEnd ((Fails.failFrom _ _).bind _) ?_)
  exact (count brace ht).bind fun _ _ hnever => hnever.elim

end Ends

namespace Tracks

variable {γ δ : Type} {tail : Text} {n : Nat} {s t : ReadState} {L : δ → ReadState → Prop} {R : γ → δ → Prop}

theorem operand {F : Tree × List Tree → Reader γ} {G : Tree × List Tree → Reader δ} {items items' : List Tree}
    (hitems : Tree.bares items = Tree.bares items')
    (hthen : ∀ item item' more more', item.Same item' → Tree.bares more = Tree.bares more' →
      Tracks tail n L R (F (item, more)) (G (item', more')) s t) :
    Tracks tail n L R (Repetition.operand items >>= F) (Repetition.operand items' >>= G) s t := by
  cases items with
  | nil => cases items' with
    | nil => exact of_fails ((Fails.failHere _).bind _) ((Fails.failHere _).bind _)
    | cons => cases hitems
  | cons item more => cases items' with
    | nil => cases hitems
    | cons item' more' =>
      obtain ⟨hitem, hmore⟩ := List.cons.inj hitems
      rw [Repetition.operand_cons, Repetition.operand_cons, Tree.Same.isOperand_eq hitem]
      by_cases hoperand : item'.isOperand = true
      · simp only [if_pos hoperand, pure_bind]
        exact hthen item item' more more' hitem hmore
      · simp only [if_neg hoperand]
        exact of_fails ((Fails.failHere _).bind _) ((Fails.failHere _).bind _)

/-! ## Counts -/

theorem blanks {F : Unit → Reader γ} {G : Unit → Reader δ} (h : Extends tail s t)
    (hthen : ∀ s' t', Extends tail s' t' → s'.rest.length ≤ s.rest.length →
      Tracks tail n L R (F ()) (G ()) s' t') :
    Tracks tail n L R (Repetition.blanks >>= F) (Repetition.blanks >>= G) s t := by
  rw [Repetition.blanks_eq]
  refine update (hthen _ _ (h.move h.verbose h.names ?_) (List.dropWhile_sublist _).length_le)
  dsimp only
  rcases h.rest with hrest | ⟨hs, ht⟩
  · rw [hrest, List.dropWhile_append, h.closing.dropWhile_eq (by decide)]
    left
    split
    · rename_i hempty
      rw [List.isEmpty_iff.mp hempty, List.nil_append]
    · rfl
  · rw [hs, ht]
    exact Or.inr ⟨rfl, rfl⟩

def SameNumber (a b : Except Complaint Nat) : Prop := a.toOption = b.toOption

theorem number (h : Extends tail s t) :
    Tracks tail s.rest.length Never SameNumber Repetition.number Repetition.number s t := by
  unfold Repetition.number
  refine blanks h fun s₁ t₁ h₁ hlength₁ => here fun start start' => (takeWhile (by decide) h₁).bind ?_
  rintro digits _ s₂ t₂ rfl h₂ hlength₂
  refine here fun stop stop' => (takeWhile (by decide) h₂).bind fun _ _ s₃ t₃ _ h₃ hlength₃ => ?_
  refine ite Iff.rfl (fun _ => pure h₃ rfl (by omega)) fun _ => ?_
  exact ite Iff.rfl (fun _ => pure h₃ rfl (by omega)) fun _ => pure h₃ rfl (by omega)

/-- A result that counts from here on. -/
theorem lift {a b : Except Complaint Nat} (hab : SameNumber a b) {F : Nat → Reader γ} {G : Nat → Reader δ}
    (hthen : ∀ k, Tracks tail n L R (F k) (G k) s t) :
    Tracks tail n L R ((liftM a : Reader Nat) >>= F) ((liftM b : Reader Nat) >>= G) s t := by
  cases a with
  | error c => cases b with
    | error d => exact of_fails ((Ends.lift_error c).bind _) ((Ends.lift_error d).bind _)
    | ok => cases hab
  | ok k => cases b with
    | error => cases hab
    | ok l =>
      obtain rfl := Option.some.inj hab
      exact ⟨(hthen k).follow, (hthen k).back⟩

theorem count (h : Extends tail s t) (brace brace' : Mark) :
    Tracks tail s.rest.length Behind Eq (Repetition.count brace) (Repetition.count brace') s t := by
  unfold Repetition.count
  refine (number h).bind fun least least' s₁ t₁ hleast h₁ hlength₁ => ?_
  refine char_or_fail h₁ (Fails.failFrom _ _) (Fails.failFrom _ _) (fun ht₁ => ?_) fun c r hs₁ => ?_
  · cases least' with
    | error c => exact Ends.of_fails ((Ends.lift_error c).bind _)
    | ok k => exact Ends.of_ok rfl (suffix_of_eq ht₁)
  have hcons := length_of_cons hs₁
  split
  · contradiction
  · refine step h₁ hs₁ fun s₂ t₂ h₂ hlength₂ => ?_
    refine char_or_fail h₂ (Fails.failFrom _ _) (Fails.failFrom _ _) (fun ht₂ => ?_) fun d r' hs₂ => ?_
    · cases least' with
      | error c => exact Ends.of_fails ((Ends.lift_error c).bind _)
      | ok k =>
        refine Ends.lift ((Ends.number ht₂).bind ?_)
        rintro _ u ⟨⟨c, rfl⟩, -⟩
        exact Ends.of_fails ((Ends.lift_error c).bind _)
    split
    · contradiction
    · exact lift hleast fun k => pure h₂ rfl (by omega)
    · refine lift hleast fun k => (number h₂).bind fun most most' s₃ t₃ hmost h₃ hlength₃ => ?_
      exact lift hmost fun m => pure h₃ rfl (by omega)
  · exact lift hleast fun k => pure h₁ rfl (by omega)

/-! ## Repetitions -/

theorem lazy {F : Unit → Reader γ} {G : Unit → Reader δ} (h : Extends tail s t)
    (hthen : ∀ s' t', Extends tail s' t' → s'.rest.length ≤ s.rest.length →
      Tracks tail n L R (F ()) (G ()) s' t') :
    Tracks tail n L R (Repetition.lazy >>= F) (Repetition.lazy >>= G) s t := by
  unfold Repetition.lazy
  simp only [bind_assoc]
  have hstay := hthen s t h (Nat.le_refl _)
  refine char h (fun c r hs => ?_) (fun _ _ => hstay) fun _ _ => hstay
  by_cases hc : some c = some '?'
  · simp only [if_pos hc]
    refine bump h hs fun s' t' h' hs' => hthen s' t' h' ?_
    rw [hs', hs]
    exact Nat.le_succ _
  · simp only [if_neg hc, pure_bind]
    exact hstay

theorem bySign (h : Extends tail s t) {c : Char} {r : Text} (hs : s.rest = c :: r) {items items' : List Tree}
    (hitems : Tree.bares items = Tree.bares items') (count : Repetition.Count) :
    Tracks tail r.length Never (fun a b => Tree.bares a = Tree.bares b) (Repetition.bySign items count)
      (Repetition.bySign items' count) s t := by
  unfold Repetition.bySign
  refine operand hitems fun item item' more more' hitem hmore => bump h hs fun s₁ t₁ h₁ hs₁ => ?_
  refine lazy h₁ fun s₂ t₂ h₂ hlength₂ => here fun _ _ => pure h₂ ?_ (hs₁ ▸ hlength₂)
  show Tree.repetition _ _ _ item.bare :: Tree.bares more = Tree.repetition _ _ _ item'.bare :: Tree.bares more'
  rw [hitem, hmore]

theorem byCount (h : Extends tail s t) {c : Char} {r : Text} (hs : s.rest = c :: r) {items items' : List Tree}
    (hitems : Tree.bares items = Tree.bares items') :
    Tracks tail r.length Never (fun a b => Tree.bares a = Tree.bares b) (Repetition.byCount items)
      (Repetition.byCount items') s t := by
  unfold Repetition.byCount
  refine operand hitems fun item item' more more' hitem hmore => here fun brace brace' => ?_
  refine step h hs fun s₁ t₁ h₁ hlength₁ => ?_
  refine unlessEnd h₁ ((Fails.failFrom _ _).bind _) ((Fails.failFrom _ _).bind _) (fun ht₁ => ?_) fun _ _ _ => ?_
  · exact (Ends.count brace' ht₁).bind fun _ _ hnever => hnever.elim
  refine (count h₁ brace brace').bind_or ?_ fun count t₂ ht₂ => ?_
  · rintro count _ s₂ t₂ rfl h₂ hlength₂
    refine char_or_fail h₂ (Fails.ite_pos (by decide) ((Fails.failFrom _ _).bind _))
      (Fails.ite_pos (by decide) ((Fails.failFrom _ _).bind _)) (fun _ => ?_) fun d r' hs₂ => ?_
    · exact Ends.of_fails (Fails.ite_pos (by decide) ((Fails.failFrom _ _).bind _))
    have hcons := length_of_cons hs₂
    refine guarded Iff.rfl ((Fails.failFrom _ _).bind _) ((Fails.failFrom _ _).bind _) fun _ => ?_
    refine step h₂ hs₂ fun s₃ t₃ h₃ hlength₃ => lazy h₃ fun s₄ t₄ h₄ hlength₄ => here fun _ _ => ?_
    refine guarded Iff.rfl ((Fails.fail _ _).bind _) ((Fails.fail _ _).bind _) fun _ => pure h₄ ?_ (by omega)
    show Tree.repetition _ _ _ item.bare :: Tree.bares more = Tree.repetition _ _ _ item'.bare :: Tree.bares more'
    rw [hitem, hmore]
  · -- the tail has no closing brace
    refine Ends.char (Ends.of_fails (Fails.ite_pos ?_ ((Fails.failFrom _ _).bind _)))
    exact fun heq => absurd (ht₂.mem (List.mem_of_mem_head? heq)) (by decide)

end Tracks

end LineShell.Pattern
