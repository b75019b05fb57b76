import LineShell.Pattern.Escape
import LineShell.Proofs.Shapes
import LineShell.Proofs.Tracking

/-!
Escapes before a tail. Numbers and properties in braces take whatever stands before the closing brace, so
they are followed only as far as the brace is there: a reader that runs into the end fails after it. Before
the tail, an escape that is not finished takes in the closing parenthesis, with one exception: a boundary
that could have a name is an edge there, and the brace after it is left.
-/

namespace LineShell.Pattern

open Reader ReadState

/-- A boundary has been read, and an opening brace is all that is left of the part. -/
def Unnamed {α : Type} (_ : α) (t : ReadState) : Prop := ∃ r, t.rest = '\x7b' :: r ∧ t.advance.skip.rest = closer

/-- What an escape that is not finished comes to before the closer. -/
def Astray (tree : Tree) (t : ReadState) : Prop :=
  Beyond tree t ∨ (∃ span kind, tree = .anchor span kind) ∧ Unnamed tree t

/-! ## Escapes at the closer -/

theorem ReadState.advance_suffix (s : ReadState) : s.advance.rest <:+ s.rest := by
  unfold advance
  split
  · exact List.suffix_rfl
  · rename_i hs
    rw [hs]
    exact List.suffix_cons _ _

namespace Ends

variable {t : ReadState}

/-- Going past a character of the closer. -/
theorem beyond_advance (ht : t.rest <:+ closer) : t.advance.rest <:+ closer.tail := by
  rcases List.suffix_cons_iff.mp ht with ht | ht
  · rw [rest_advance ht]
    exact List.suffix_rfl
  · exact t.advance_suffix.trans ht

theorem beyond_step (ht : t.rest <:+ closer) : t.advance.skip.rest <:+ closer.tail :=
  t.advance.skip_suffix.trans (beyond_advance ht)

/-- Looking for a closing brace goes on from here. -/
theorem toBrace (n : Nat) (t : ReadState) : Ends (fun _ u => u.rest <:+ t.rest) (Escape.toBrace n) t := by
  induction n generalizing t with
  | zero => exact pure List.suffix_rfl
  | succ n ih =>
    have hstep : t.advance.skip.rest <:+ t.rest := t.advance.skip_suffix.trans t.advance_suffix
    unfold Escape.toBrace
    refine step (char ?_)
    split
    · exact pure hstep
    · exact pure hstep
    · exact (ih t.advance.skip).bind fun _ _ hu => pure (hu.trans hstep)

theorem hexDigits {n : Nat} (hn : 0 < n) (ht : t.rest = closer) : Ends Never (Escape.hexDigits n) t := by
  obtain ⟨n, rfl⟩ : ∃ n', n = n' + 1 := ⟨n - 1, by omega⟩
  unfold Escape.hexDigits
  refine char ?_
  rw [ht]
  exact of_fails (Fails.bind_right _ fun _ => Fails.fail _ _)

theorem fixed {n : Nat} (hn : 0 < n) (ht : t.rest = closer) : Ends Never (Escape.fixed n) t :=
  here fun _ => (hexDigits hn ht).bind fun _ _ hnever => hnever.elim

end Ends

namespace Tracks

variable {γ δ : Type} {tail : Text} {n : Nat} {s t : ReadState} {L : δ → ReadState → Prop} {R : γ → δ → Prop}

/-! ## Characters by number -/

theorem hexDigits (h : Extends tail s t) (count : Nat) :
    Tracks tail s.rest.length Never Eq (Escape.hexDigits count) (Escape.hexDigits count) s t := by
  induction count generalizing s t with
  | zero => exact pure h rfl (Nat.le_refl _)
  | succ count ih =>
    unfold Escape.hexDigits
    refine char_or_fail h (Fails.failHere _) (Fails.failHere _) (fun ht => ?_) fun c r hs => ?_
    · exact Ends.of_fails (Fails.bind_right _ fun _ => Fails.fail _ _)
    by_cases hc : Escape.isHexDigit c = true
    · simp only [if_pos hc]
      refine step h hs fun s' t' h' hlength => (ih h').bind ?_
      rintro a _ s'' t'' rfl h'' hlength'
      have hcons := length_of_cons hs
      exact pure h'' rfl (by omega)
    · simp only [if_neg hc]
      exact of_fails (Fails.bind_right _ fun _ => Fails.fail _ _) (Fails.bind_right _ fun _ => Fails.fail _ _)

/-- The digits before a closing brace, if the pattern does not end. -/
theorem hexToBrace {F : Text → Reader γ} {G : Text → Reader δ} {c : Char} {r : Text} (h : Extends tail s t)
    (hs : s.rest = c :: r) {k l : Nat} (hk : r.length < k) (hkl : k ≤ l)
    (hopen : ∀ digits r' s' t', Extends tail s' t' → s'.rest = '\x7d' :: r' → s'.rest.length ≤ r.length →
      Tracks tail n L R (F digits) (G digits) s' t')
    (hF : ∀ digits s', s'.rest = [] → Ends Never (F digits) s')
    (hG : ∀ digits t', t'.rest = [] → Ends Never (G digits) t') :
    Tracks tail n L R (Escape.hexToBrace k >>= F) (Escape.hexToBrace l >>= G) s t := by
  induction k generalizing s t c r l F G with
  | zero => exact absurd hk (Nat.not_lt_zero _)
  | succ k ih =>
    obtain ⟨l, rfl⟩ : ∃ l', l = l' + 1 := ⟨l - 1, by omega⟩
    simp only [Escape.hexToBrace, bind_assoc]
    refine step h hs fun s' t' h' hlength => char h' (fun d r' hs' => ?_) (fun hs' ht' => ?_) fun hs' ht' => ?_
    · have hcons := length_of_cons hs'
      split
      · contradiction
      · rename_i heq
        cases heq
        simp only [pure_bind]
        exact hopen [] r' s' t' h' hs' hlength
      · rename_i hbrace heq
        cases heq
        by_cases hd : Escape.isHexDigit d = true
        · simp only [if_pos hd, bind_assoc, pure_bind]
          refine ih h' hs' (by omega) (by omega) (fun digits r'' s'' t'' h'' hs'' hlength' => ?_) ?_ ?_
          · exact hopen (d :: digits) r'' s'' t'' h'' hs'' (by omega)
          · exact fun digits => hF (d :: digits)
          · exact fun digits => hG (d :: digits)
        · simp only [if_neg hd, bind_assoc]
          exact of_fails (Fails.bind_right _ fun _ => (Fails.fail _ _).bind _)
            (Fails.bind_right _ fun _ => (Fails.fail _ _).bind _)
    · simp only [pure_bind]
      exact of_ends (hF [] s' hs') (Ends.of_never (hG [] t' ht'))
    · simp only [pure_bind]
      exact of_ends (hF [] s' hs') (Ends.of_fails ((Fails.bind_right _ fun _ => Fails.fail _ _).bind _))

theorem braced (h : Extends tail s t) {c : Char} {r : Text} (hs : s.rest = c :: r) :
    Tracks tail r.length Never Eq Escape.braced Escape.braced s t := by
  have hcons := length_of_cons hs
  unfold Escape.braced
  refine here fun brace brace' => charSpan fun start start' => get ?_
  refine hexToBrace h hs (by omega) h.length_le (fun digits r' s' t' h' hs' hlength => ?_) ?_ ?_
  · refine unlessEnd h' ((Fails.failFrom _ _).bind _) ((Fails.failFrom _ _).bind _) (fun ht' => ?_) fun _ _ _ => ?_
    · rw [h'.rest_of_cons hs'] at ht'
      cases ht'
    refine here fun stop stop' => step h' hs' fun s'' t'' h'' hlength' => ?_
    have hcons' := length_of_cons hs'
    refine guarded Iff.rfl ((Fails.failFrom _ _).bind _) ((Fails.failFrom _ _).bind _) fun _ => ?_
    cases Escape.hexChar? digits with
    | none => exact of_fails (Fails.fail _ _) (Fails.fail _ _)
    | some c => exact pure h'' rfl (by omega)
  · exact fun digits s' hs' => Ends.atEnd hs' ((Fails.failFrom _ _).bind _)
  · exact fun digits t' ht' => Ends.atEnd ht' ((Fails.failFrom _ _).bind _)

theorem fixed (h : Extends tail s t) (count : Nat) :
    Tracks tail s.rest.length Never Eq (Escape.fixed count) (Escape.fixed count) s t := by
  unfold Escape.fixed
  refine here fun start start' => (hexDigits h count).bind ?_
  rintro digits _ s' t' rfl h' hlength
  cases Escape.hexChar? digits with
  | none => exact of_fails (Fails.failFrom _ _) (Fails.failFrom _ _)
  | some c => exact pure h' rfl hlength

theorem byNumber (h : Extends tail s t) {c : Char} {r : Text} (hs : s.rest = c :: r) (start start' : Mark)
    {count : Nat} (hcount : 0 < count) :
    Tracks tail r.length Never Tree.Same (Escape.byNumber start count) (Escape.byNumber start' count) s t := by
  unfold Escape.byNumber
  refine step h hs fun s' t' h' hlength => ?_
  refine char_or_fail h' (Fails.failHere _) (Fails.failHere _) (fun ht' => ?_) fun d r' hs' => ?_
  · exact (Ends.fixed hcount ht').bind fun _ _ hnever => hnever.elim
  have hcons := length_of_cons hs'
  split
  · contradiction
  · refine (braced h' hs').bind ?_
    rintro char _ s'' t'' rfl h'' hlength'
    exact here fun _ _ => pure h'' rfl (by omega)
  · rename_i hbrace heq
    cases heq
    refine (fixed h' count).bind ?_
    rintro char _ s'' t'' rfl h'' hlength'
    exact here fun _ _ => pure h'' rfl (by omega)

/-! ## Properties -/

/-- The text before a closing brace, if the pattern does not end. -/
theorem toBrace {F : Text → Reader γ} {G : Text → Reader δ} {c : Char} {r : Text} (h : Extends tail s t)
    (hs : s.rest = c :: r) {k l : Nat} (hk : r.length < k) (hkl : k ≤ l)
    (hopen : ∀ text r' s' t', Extends tail s' t' → s'.rest = '\x7d' :: r' → s'.rest.length ≤ r.length →
      Tracks tail n L R (F text) (G text) s' t')
    (hF : ∀ text s', s'.rest = [] → Ends Never (F text) s')
    (hG : ∀ text t', t'.rest <:+ closer → Ends L (G text) t') :
    Tracks tail n L R (Escape.toBrace k >>= F) (Escape.toBrace l >>= G) s t := by
  induction k generalizing s t c r l F G with
  | zero => exact absurd hk (Nat.not_lt_zero _)
  | succ k ih =>
    obtain ⟨l, rfl⟩ : ∃ l', l = l' + 1 := ⟨l - 1, by omega⟩
    simp only [Escape.toBrace, bind_assoc]
    refine step h hs fun s' t' h' hlength => char h' (fun d r' hs' => ?_) (fun hs' ht' => ?_) fun hs' ht' => ?_
    · have hcons := length_of_cons hs'
      split
      · contradiction
      · rename_i heq
        cases heq
        simp only [pure_bind]
        exact hopen [] r' s' t' h' hs' hlength
      · rename_i hbrace heq
        cases heq
        simp only [bind_assoc, pure_bind]
        refine ih h' hs' (by omega) (by omega) (fun text r'' s'' t'' h'' hs'' hlength' => ?_) ?_ ?_
        · exact hopen (d :: text) r'' s'' t'' h'' hs'' (by omega)
        · exact fun text => hF (d :: text)
        · exact fun text => hG (d :: text)
    · simp only [pure_bind]
      exact of_ends (hF [] s' hs') (hG [] t' (ht' ▸ List.nil_suffix))
    · simp only [pure_bind]
      have hpast : Ends Behind (Escape.toBrace l >>= fun text => Pure.pure (')' :: text)) t' := by
        refine (Ends.toBrace l t').bind fun _ _ hu => Ends.pure ?_
        rwa [ht'] at hu
      exact of_ends (hF [] s' hs') (hpast.bind fun text u hu => hG text u hu)

theorem property (h : Extends tail s t) {c : Char} {r : Text} (hs : s.rest = c :: r) (start start' : Mark)
    (negated : Bool) :
    Tracks tail r.length Beyond Tree.Same (Escape.property start negated) (Escape.property start' negated) s t := by
  unfold Escape.property
  refine step h hs fun s' t' h' hlength => ?_
  refine char_or_fail h' (Fails.failHere _) (Fails.failHere _) (fun ht' => ?_) fun d r' hs' => ?_
  · refine Ends.guarded (Fails.bind_right _ fun _ => (Fails.fail _ _).bind _) (Ends.step (Ends.here fun _ => ?_))
    exact Ends.pure (Ends.beyond_step (suffix_of_eq ht'))
  have hcons := length_of_cons hs'
  split
  · contradiction
  · refine get (toBrace h' hs' (by omega) h'.length_le (fun text r'' s'' t'' h'' hs'' hlength' => ?_) ?_ ?_)
    · refine unlessEnd h'' ((Fails.failHere _).bind _) ((Fails.failHere _).bind _) (fun ht'' => ?_) fun _ _ _ => ?_
      · rw [h''.rest_of_cons hs''] at ht''
        cases ht''
      have hcons' := length_of_cons hs''
      refine bump h'' hs'' fun s₃ t₃ h₃ hs₃ => here fun _ _ => pure h₃ rfl ?_
      rw [hs₃]
      omega
    · exact fun text s'' hs'' => Ends.atEnd hs'' ((Fails.failHere _).bind _)
    · intro text t'' ht''
      refine Ends.unlessEnd ((Fails.failHere _).bind _) (Ends.bump (Ends.here fun _ => Ends.pure ?_))
      exact Ends.beyond_advance ht''
  · rename_i hbrace heq
    cases heq
    refine guarded Iff.rfl (Fails.bind_right _ fun _ => (Fails.fail _ _).bind _)
      (Fails.bind_right _ fun _ => (Fails.fail _ _).bind _) fun _ => ?_
    exact step h' hs' fun s'' t'' h'' hlength' => here fun _ _ => pure h'' rfl (by omega)

/-! ## Word boundaries -/

theorem boundary (h : Extends tail s t) (start start' : Mark) :
    Tracks tail s.rest.length Unnamed Eq (Escape.boundary start) (Escape.boundary start') s t := by
  unfold Escape.boundary
  have hopen : ∀ e : Option Char, e ≠ some '\x7b' → (e != some '\x7b') = true := fun e he => bne_iff_ne.mpr he
  refine char h (fun c r hs => ?_) (fun _ _ => ?_) fun _ _ => ?_
  · by_cases hc : (some c != some '\x7b') = true
    · simp only [if_pos hc]
      exact pure h rfl (Nat.le_refl _)
    · simp only [if_neg hc]
      obtain rfl : c = '\x7b' := by simpa using hc
      have h' := (h.advance hs).skip
      refine get (here fun brace brace' => step_to hs fun hlength => ?_)
      refine char_or_fail h' (Fails.failFrom _ _) (Fails.failFrom _ _) (fun ht' => ?_) fun d r' hs' => ?_
      · -- the state before the brace is taken up again, and the tail is left
        refine Ends.of_ok rfl ?_
        exact ⟨_, h.rest_of_cons hs, ht'⟩
      by_cases hd : (!Escape.isBoundaryChar d) = true
      · simp only [if_pos hd]
        exact of_ok rfl rfl h rfl (Nat.le_refl _)
      · simp only [if_neg hd]
        refine here fun nameStart nameStart' => (takeWhile (by decide) h').bind ?_
        rintro name _ s'' t'' rfl h'' hlength'
        refine char_or_fail h'' (Fails.ite_pos rfl ((Fails.failFrom _ _).bind _))
          (Fails.ite_pos rfl ((Fails.failFrom _ _).bind _)) (fun _ => ?_) fun e r'' hs'' => ?_
        · exact Ends.of_fails (Fails.ite_pos rfl ((Fails.failFrom _ _).bind _))
        have hcons := length_of_cons hs
        have hcons' := length_of_cons hs''
        refine guarded Iff.rfl ((Fails.failFrom _ _).bind _) ((Fails.failFrom _ _).bind _) fun _ => ?_
        refine here fun nameStop nameStop' => bump h'' hs'' fun s₃ t₃ h₃ hs₃ => ?_
        cases Escape.boundary? name with
        | none => exact of_fails (Fails.fail _ _) (Fails.fail _ _)
        | some kind => exact pure h₃ rfl (by rw [hs₃]; omega)
  · exact pure h rfl (Nat.le_refl _)
  · exact pure h rfl (Nat.le_refl _)

/-! ## All escapes -/

theorem single (h : Extends tail s t) (start start' : Mark) (c : Char) :
    Tracks tail s.rest.length Astray Tree.Same (Escape.single start c) (Escape.single start' c) s t := by
  unfold Escape.single
  refine here fun stop stop' => ?_
  by_cases hquotable : Escape.isQuotable c = true
  · simp only [if_pos hquotable]
    exact pure h rfl (Nat.le_refl _)
  · simp only [if_neg hquotable]
    cases Escape.control? c with
    | some char => exact pure h rfl (Nat.le_refl _)
    | none =>
      cases Escape.anchor? c with
      | some kind => exact pure h rfl (Nat.le_refl _)
      | none =>
        cases Escape.shorthand? c with
        | some kind => exact pure h rfl (Nat.le_refl _)
        | none =>
          by_cases hb : c = 'b'
          · simp only [if_pos hb]
            refine (boundary h start start').bind_or ?_ ?_
            · rintro kind _ s' t' rfl h' hlength
              exact here fun _ _ => pure h' rfl hlength
            · exact fun kind t' ht' => Ends.here fun _ => Ends.pure (Or.inr ⟨⟨_, _, rfl⟩, ht'⟩)
          · simp only [if_neg hb]
            exact of_fails (Fails.fail _ _) (Fails.fail _ _)

theorem escape (h : Extends tail s t) {c : Char} {r : Text} (hs : s.rest = c :: r) :
    Tracks tail r.length Astray Tree.Same Reader.escape Reader.escape s t := by
  unfold Reader.escape
  refine here fun start start' => bump h hs fun s' t' h' hs' => ?_
  refine char_or_fail h' (Fails.failFrom _ _) (Fails.failFrom _ _) (fun ht' => ?_) fun d r' hd => ?_
  · -- a backslash and the closing parenthesis are a character
    exact Ends.of_ok rfl (Or.inl (Ends.beyond_advance (suffix_of_eq ht')))
  have hcons := length_of_cons hd
  rw [← hs']
  refine guarded Iff.rfl (Fails.bind_right _ fun _ => Fails.fail _ _) (Fails.bind_right _ fun _ => Fails.fail _ _)
    fun _ => ?_
  split
  · exact (byNumber h' hd start start' (by decide)).sure (by omega)
  · split
    · exact (byNumber h' hd start start' (by decide)).sure (by omega)
    · split
      · exact (byNumber h' hd start start' (by decide)).sure (by omega)
      · split
        · exact (property h' hd start start' false).weaken (by omega) fun _ _ => Or.inl
        · split
          · exact (property h' hd start start' true).weaken (by omega) fun _ _ => Or.inl
          · refine bump h' hd fun s'' t'' h'' hs'' => ?_
            refine (single h'' start start' d).mono ?_
            rw [hs'']
            omega

end Tracks

end LineShell.Pattern
