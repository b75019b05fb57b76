import LineShell.Pattern.Parse
import LineShell.Proofs.Tracking.Brackets
import LineShell.Proofs.Tracking.Group
import LineShell.Proofs.Tracking.Repetition

/-!
Whole patterns before a tail. The body of a group stops at a closing parenthesis as it stops at the end,
so what is read of a pattern on its own is read of it inside a group, too, and what is read of it there
without the parenthesis is read of it on its own.

  - `bare_branch`, `bare_close`: what is put together has the spans of its parts only.
  - `Ends.body`: behind the parenthesis of the closer, a body goes to the end.
  - `Tracks.body`: a body before a tail.
-/

namespace LineShell.Pattern

open Reader ReadState

namespace Parse

theorem bare_branch (start stop : Mark) (items : List Tree) :
    (branch start stop items).bare = branch {} {} (Tree.bares items) := by
  match items with
  | [] => rfl
  | [_] => rfl
  | t :: u :: items =>
    show Tree.sequence _ (Tree.bares (t :: u :: items).reverse) = _
    rw [Tree.bares_reverse]
    rfl

theorem bare_close (b : Branches) (stop : Mark) (last : Tree) :
    (b.close stop last).bare = Branches.close ⟨{}, Tree.bares b.done⟩ {} last.bare := by
  obtain ⟨start, done⟩ := b
  cases done with
  | nil => rfl
  | cons t done =>
    show Tree.choice _ (Tree.bares (last :: t :: done).reverse) = _
    rw [Tree.bares_reverse]
    rfl

theorem same_close {b b' : Branches} {items items' : List Tree} (hb : Tree.bares b.done = Tree.bares b'.done)
    (hitems : Tree.bares items = Tree.bares items') (start start' stop stop' : Mark) :
    (b.close stop (branch start stop items)).Same (b'.close stop' (branch start' stop' items')) := by
  show Tree.bare _ = Tree.bare _
  rw [bare_close, bare_close, bare_branch, bare_branch, hb, hitems]

end Parse

/-- The parenthesis of the closer has been read, and with enough fuel to spare what is behind it, too. -/
def Used {α : Type} (spare : Nat) (_ : α) (t : ReadState) : Prop :=
  t.rest <:+ closer.tail ∧ (3 ≤ spare → t.rest = [])

namespace Ends

variable {t : ReadState} {spare n : Nat}

/-- A boundary is all that is left of the closer. -/
theorem body (hn : spare ≤ n) (b : Parse.Branches) (start : Mark) (items : List Tree)
    (ht : t.rest <:+ closer.tail) : Ends (Used spare) (Parse.body n b start items) t := by
  obtain ⟨rest, mark, verbose, names⟩ := t
  have hcases : rest = ['\\', 'b'] ∨ rest = ['b'] ∨ rest = [] := by
    simpa [closer, List.suffix_cons_iff] using ht
  rcases n with _ | _ | n
  · exact of_ok rfl ⟨ht, fun hspare => absurd (Nat.le_trans hspare hn) (by decide)⟩
  all_goals
    rcases hcases with rfl | rfl | rfl <;> cases verbose <;> exact of_ok rfl ⟨List.nil_suffix, fun _ => rfl⟩

theorem skip_brace {r : Text} (ht : t.rest = '\x7b' :: r) : t.skip = t := by
  obtain ⟨rest, mark, verbose, names⟩ := t
  subst ht
  cases verbose <;> rfl

/-- The brace after a boundary repeats nothing. -/
theorem body_unnamed {α : Type} {a : α} (ht : Unnamed a t) (n : Nat) (b : Parse.Branches) (start : Mark)
    (items : List Tree) : Ends Never (Parse.body (n + 1) b start items) t := by
  obtain ⟨r, hbrace, hcloser⟩ := ht
  unfold Parse.body
  refine skip ?_
  rw [skip_brace hbrace]
  refine char ?_
  rw [hbrace]
  exact (byCount items hcloser).bind fun _ _ hnever => hnever.elim

end Ends

namespace Tracks

variable {γ δ : Type} {tail : Text} {n : Nat} {s t : ReadState} {L : δ → ReadState → Prop} {R : γ → δ → Prop}

theorem parseItem (h : Extends tail s t) {c : Char} {r : Text} (hs : s.rest = c :: r) :
    Tracks tail r.length Astray Tree.Same (Parse.item c) (Parse.item c) s t := by
  unfold Parse.item
  refine charSpan fun span span' => ite Iff.rfl (fun _ => (brackets h hs).sure (Nat.le_refl _)) fun _ => ?_
  refine ite Iff.rfl (fun _ => escape h hs) fun _ => bump h hs fun s' t' h' hs' => ?_
  have hlength := Nat.le_of_eq (congrArg List.length hs')
  refine ite Iff.rfl (fun _ => pure h' rfl hlength) fun _ => ite Iff.rfl (fun _ => pure h' rfl hlength) fun _ => ?_
  exact ite Iff.rfl (fun _ => pure h' rfl hlength) fun _ => pure h' rfl hlength

theorem setVerbose {F : Unit → Reader γ} {G : Unit → Reader δ} (h : Extends tail s t) {verbose verbose' : Bool}
    (hverbose : verbose' = verbose)
    (hthen : ∀ s' t', Extends tail s' t' → s'.rest = s.rest → Tracks tail n L R (F ()) (G ()) s' t') :
    Tracks tail n L R (modify (fun s => { s with verbose }) >>= F)
      (modify (fun s => { s with verbose := verbose' }) >>= G) s t :=
  update (hthen _ _ (h.move hverbose h.names h.rest) rfl)

/-- The body of a group, or a whole pattern. -/
theorem body {spare : Nat} (h : Extends tail s t) {k l : Nat} (hk : s.rest.length < k) (hkl : k + spare ≤ l)
    {b b' : Parse.Branches} (hb : Tree.bares b.done = Tree.bares b'.done) (start start' : Mark)
    {items items' : List Tree} (hitems : Tree.bares items = Tree.bares items') :
    Tracks tail s.rest.length (Used spare) Tree.Same (Parse.body k b start items) (Parse.body l b' start' items')
      s t := by
  induction k generalizing s t l b b' start start' items items' with
  | zero => exact absurd hk (Nat.not_lt_zero _)
  | succ k ih =>
    obtain ⟨l, rfl⟩ : ∃ l', l = l' + 1 := ⟨l - 1, by omega⟩
    -- the rest of the body, from a state in which some character of it is gone
    have hrest : ∀ {s₂ t₂ b b' start start' items items'}, Extends tail s₂ t₂ → s₂.rest.length < s.rest.length →
        Tree.bares b.done = Tree.bares b'.done → Tree.bares items = Tree.bares items' →
        Tracks tail s.rest.length (Used spare) Tree.Same (Parse.body k b start items)
          (Parse.body l b' start' items') s₂ t₂ :=
      fun h₂ hlength₂ hb hitems => (ih h₂ (by omega) (by omega) hb _ _ hitems).mono (by omega)
    unfold Parse.body
    refine skip h fun s₁ t₁ h₁ hlength₁ => char h₁ (fun c r hs₁ => ?_) (fun _ _ => ?_) fun _ _ => ?_
    · have hcons := length_of_cons hs₁
      split
      · contradiction
      · exact here fun stop stop' => pure h₁ (Parse.same_close hb hitems _ _ _ _) hlength₁
      · refine here fun stop stop' => bump h₁ hs₁ fun s₂ t₂ h₂ hs₂ => here fun first first' => ?_
        refine hrest h₂ (by rw [hs₂]; omega) ?_ rfl
        show (Parse.branch start stop items).bare :: Tree.bares b.done = _ :: Tree.bares b'.done
        rw [Parse.bare_branch, hitems, hb, ← Parse.bare_branch start' stop' items']
      · refine get ((groupOpening h₁ hs₁).bind_or (fun o o' s₂ t₂ ho h₂ hlength₂ => ?_) fun o t₂ ht₂ => ?_)
        · cases o with
          | flags span switches =>
            cases o' with
            | body => exact ho.elim
            | flags span' switches' =>
              obtain rfl : switches = switches' := ho
              refine setVerbose h₂ (by rw [h₁.verbose]) fun s₃ t₃ h₃ hs₃ => hrest h₃ (by rw [hs₃]; omega) hb ?_
              show Tree.flags _ switches :: Tree.bares items = Tree.flags _ switches :: Tree.bares items'
              rw [hitems]
          | body span captures switches =>
            cases o' with
            | flags => exact ho.elim
            | body span' captures' switches' =>
              obtain ⟨rfl, rfl⟩ : captures = captures' ∧ switches = switches' := ho
              refine setVerbose h₂ (by rw [h₁.verbose]) fun s₃ t₃ h₃ hs₃ => here fun first first' => ?_
              rw [← hs₃] at hlength₂
              have hinside : Tracks tail s₃.rest.length (Used spare) Tree.Same
                  (Parse.body k { start := first } first []) (Parse.body l { start := first' } first' []) s₃ t₃ := by
                refine ih h₃ (by omega) (by omega) ?_ first first' ?_ <;> rfl
              -- the parenthesis after the group is one of the pattern
              refine hinside.bind_or (fun inner inner' s₄ t₄ hinner h₄ hlength₄ => ?_) fun inner t₄ ht₄ => ?_
              · refine unlessEnd h₄ ((Fails.fail _ _).bind _) ((Fails.fail _ _).bind _) (fun ht₄ => ?_) fun d r' hs₄ => ?_
                · refine Ends.update (Ends.bump (Ends.here fun _ => Ends.body (by omega) _ _ _ ?_))
                  exact Ends.beyond_advance (suffix_of_eq ht₄)
                refine setVerbose h₄ h₁.verbose fun s₅ t₅ h₅ hs₅ => ?_
                rw [hs₄] at hs₅
                have hcons' := length_of_cons hs₄
                refine bump h₅ hs₅ fun s₆ t₆ h₆ hs₆ => here fun _ _ => hrest h₆ (by rw [hs₆]; omega) hb ?_
                show Tree.group _ captures switches inner.bare :: Tree.bares items =
                  Tree.group _ captures switches inner'.bare :: Tree.bares items'
                rw [hinner, hitems]
              · refine Ends.unlessEnd ((Fails.fail _ _).bind _) (Ends.update (Ends.bump (Ends.here fun _ => ?_)))
                exact Ends.body (by omega) _ _ _ ((advance_suffix _).trans ht₄.1)
        · cases o with
          | flags => exact Ends.update (Ends.body (by omega) _ _ _ ht₂)
          | body span captures switches =>
            refine Ends.update (Ends.here fun _ => Ends.bind (K := Used spare) ?_ fun inner t₄ ht₄ => ?_)
            · exact Ends.body (by omega) _ _ _ ht₂
            refine Ends.unlessEnd ((Fails.fail _ _).bind _) (Ends.update (Ends.bump (Ends.here fun _ => ?_)))
            exact Ends.body (by omega) _ _ _ ((advance_suffix _).trans ht₄.1)
      · exact (byCount h₁ hs₁ hitems).bind fun is is' s₂ t₂ his h₂ hlength₂ => hrest h₂ (by omega) hb his
      · rename_i e heq
        cases heq
        cases Parse.sign? c with
        | some count =>
          exact (bySign h₁ hs₁ hitems count).bind fun is is' s₂ t₂ his h₂ hlength₂ => hrest h₂ (by omega) hb his
        | none =>
          refine (parseItem h₁ hs₁).bind_or (fun item item' s₂ t₂ hitem h₂ hlength₂ => ?_) ?_
          · refine hrest h₂ (by omega) hb ?_
            show item.bare :: Tree.bares items = item'.bare :: Tree.bares items'
            rw [hitem, hitems]
          · rintro item t₂ (ht₂ | ⟨-, ht₂⟩)
            · exact Ends.body (by omega) _ _ _ ht₂
            · obtain ⟨l, rfl⟩ : ∃ l', l = l' + 1 := ⟨l - 1, by omega⟩
              exact Ends.of_never (Ends.body_unnamed ht₂ l _ _ _)
    · exact here fun stop stop' => pure h₁ (Parse.same_close hb hitems _ _ _ _) hlength₁
    · -- the other one is at the parenthesis of the tail
      exact here fun stop stop' => pure h₁ (Parse.same_close hb hitems _ _ _ _) hlength₁

end Tracks

end LineShell.Pattern
