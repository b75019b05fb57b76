import LineShell.Pattern.Group
import LineShell.Proofs.Tracking.Escape

/-!
Openings of groups before a tail. Names end with a character of their own. Flags end with a colon or a closing
parenthesis, so flags that are not finished take in the parenthesis of the tail.
-/

namespace LineShell.Pattern

open Reader ReadState

namespace Group

structure Switches.Same (z z' : Switches) : Prop where
  minus : z.minus.isSome = z'.minus.isSome
  flags : z.flags.map Prod.fst = z'.flags.map Prod.fst
  dangling : z.dangling = z'.dangling

def Opening.Same : Opening → Opening → Prop
  | .flags _ switches, .flags _ switches' => switches = switches'
  | .body _ captures switches, .body _ captures' switches' => captures = captures' ∧ switches = switches'
  | _, _ => False

/-- A minus sign has been read in both, or in neither. -/
theorem Switches.Same.minus_cases {z z' : Switches} (h : z.Same z') :
    (z.minus = none ∧ z'.minus = none) ∨ ∃ span span', z.minus = some span ∧ z'.minus = some span' := by
  have hminus := h.minus
  cases hz : z.minus <;> cases hz' : z'.minus <;> rw [hz, hz'] at hminus
  · exact Or.inl ⟨rfl, rfl⟩
  · cases hminus
  · cases hminus
  · exact Or.inr ⟨_, _, rfl, rfl⟩

/-- Whether a flag has been there is seen without places. -/
theorem Switches.Same.find?_eq_none {z z' : Switches} (h : z.Same z') (flag : Flag) :
    z.flags.find? (·.1.flag == flag) = none ↔ z'.flags.find? (·.1.flag == flag) = none := by
  have hfirst : ∀ y : Switches, y.flags.find? (·.1.flag == flag) = none ↔
      ∀ new ∈ y.flags.map Prod.fst, (new.flag == flag) = false := by
    intro y
    simp [List.find?_eq_none]
  rw [hfirst, hfirst, h.flags]

def afterFlags (paren : Span) (mark : Mark) (switches : List Switch) : Reader Opening := do
  let closed := (← char?) == some ')'
  bump
  if closed then
    if switches = [] then fail .repetitionMissing (Span.point mark)
    return .flags ⟨paren.start, ← here⟩ switches
  return .body paren false switches

theorem flagged_eq (paren : Span) (mark : Mark) :
    flagged paren mark = (do
      if ← atEnd then fail .groupUnclosed paren
      afterFlags paren mark (← switches ((← get).rest.length + 1) {})) := rfl

end Group

namespace Ends

variable {t : ReadState}

/-- The parenthesis of the closer ends flags. -/
theorem switches (n : Nat) (z : Group.Switches) (ht : t.rest = closer) :
    Ends (fun _ u => u = t) (Group.switches n z) t := by
  obtain ⟨rest, mark, verbose, names⟩ := t
  subst ht
  obtain ⟨minus, flags, dangling⟩ := z
  cases n with
  | zero => exact of_fails (Fails.failHere _)
  | succ n =>
    cases minus with
    | none => exact of_ok rfl rfl
    | some span =>
      cases dangling with
      | true => exact of_error rfl
      | false => exact of_ok rfl rfl

theorem afterFlags (paren : Span) (mark : Mark) (found : List Switch) (ht : t.rest = closer) :
    Ends Beyond (Group.afterFlags paren mark found) t := by
  have hpast := beyond_advance (suffix_of_eq ht)
  refine char (bump (ite (fun _ => ?_) fun _ => pure hpast))
  exact guarded ((Fails.fail _ _).bind _) (here fun _ => pure hpast)

theorem isNameChar_paren (first : Bool) : Group.isNameChar first ')' = false := by
  cases first <;> decide +kernel

end Ends

namespace Tracks

variable {γ δ : Type} {tail : Text} {n : Nat} {s t : ReadState} {L : δ → ReadState → Prop} {R : γ → δ → Prop}

/-! ## Flags -/

theorem switch {F : Group.Switches → Reader γ} {G : Group.Switches → Reader δ} {z z' : Group.Switches}
    (hz : z.Same z') (c : Char) (hthen : ∀ y y', y.Same y' → Tracks tail n L R (F y) (G y') s t) :
    Tracks tail n L R (Group.switch z c >>= F) (Group.switch z' c >>= G) s t := by
  unfold Group.switch
  simp only [bind_assoc]
  refine charSpan fun span span' => ?_
  by_cases hc : c = '-'
  · simp only [if_pos hc]
    rcases hz.minus_cases with ⟨hminus, hminus'⟩ | ⟨span, span', hminus, hminus'⟩
    · rw [hminus, hminus']
      simp only [pure_bind]
      exact hthen _ _ ⟨rfl, hz.flags, rfl⟩
    · rw [hminus, hminus']
      exact of_fails (((Fails.throw _).bind _).bind _) (((Fails.throw _).bind _).bind _)
  · simp only [if_neg hc]
    cases Group.flag? c with
    | none => exact of_fails ((Fails.fail _ _).bind _) ((Fails.fail _ _).bind _)
    | some flag =>
      dsimp only
      have hfind := hz.find?_eq_none flag
      cases hfound : z.flags.find? (·.1.flag == flag) with
      | some found =>
        cases hfound' : z'.flags.find? (·.1.flag == flag) with
        | some found' => exact of_fails (((Fails.throw _).bind _).bind _) (((Fails.throw _).bind _).bind _)
        | none =>
          rw [hfind.mpr hfound'] at hfound
          cases hfound
      | none =>
        rw [hfind.mp hfound]
        simp only [pure_bind]
        refine hthen _ _ ⟨hz.minus, ?_, rfl⟩
        have hnone : z.minus.isNone = z'.minus.isNone := by
          rw [← Option.not_isSome, ← Option.not_isSome, hz.minus]
        simp only [List.map_append, hz.flags, hnone, List.map_cons, List.map_nil]

/-- Flags and the colon or the closing parenthesis after them, which is not read. -/
theorem switches {F : List Switch → Reader γ} {G : List Switch → Reader δ} (h : Extends tail s t) {k l : Nat}
    (hk : s.rest.length < k) (hkl : k ≤ l) {z z' : Group.Switches} (hz : z.Same z')
    (hthen : ∀ found c r s' t', Extends tail s' t' → s'.rest = c :: r → s'.rest.length ≤ s.rest.length →
      Tracks tail n L R (F found) (G found) s' t')
    (hparen : ∀ found t', t'.rest = closer → Ends L (G found) t') :
    Tracks tail n L R (Group.switches k z >>= F) (Group.switches l z' >>= G) s t := by
  induction k generalizing s t l z z' with
  | zero => exact absurd hk (Nat.not_lt_zero _)
  | succ k ih =>
    obtain ⟨l, rfl⟩ : ∃ l', l = l' + 1 := ⟨l - 1, by omega⟩
    unfold Group.switches
    simp only [bind_assoc]
    refine char_or_fail h ((Fails.failHere _).bind _) ((Fails.failHere _).bind _) (fun ht => ?_) fun c r hs => ?_
    · have hflags := Ends.switches (l + 1) z' ht
      unfold Group.switches at hflags
      have hclosed := Ends.of_char hflags
      rw [ht] at hclosed
      refine hclosed.bind ?_
      rintro found _ rfl
      exact hparen found _ ht
    by_cases hc : c = ':' ∨ c = ')'
    · simp only [if_pos hc]
      have hread : Tracks tail n L R (F (z.flags.map (·.1))) (G (z'.flags.map (·.1))) s t :=
        hz.flags ▸ hthen _ c r s t h hs (Nat.le_refl _)
      rcases hz.minus_cases with ⟨hminus, hminus'⟩ | ⟨span, span', hminus, hminus'⟩
      · rw [hminus, hminus']
        simpa only [pure_bind] using hread
      · rw [hminus, hminus']
        by_cases hdangling : z.dangling = true
        · simp only [if_pos hdangling, if_pos (hz.dangling ▸ hdangling)]
          exact of_fails (((Fails.fail _ _).bind _).bind _) (((Fails.fail _ _).bind _).bind _)
        · simp only [if_neg hdangling, if_neg (hz.dangling ▸ hdangling)]
          simpa only [pure_bind] using hread
    · simp only [if_neg hc, bind_assoc]
      refine switch hz c fun y y' hy => bump h hs fun s' t' h' hs' => ih h' ?_ (by omega) hy ?_
      · have hcons := length_of_cons hs
        rw [hs']
        omega
      · intro found c' r' s'' t'' h'' hs'' hlength
        have hcons := length_of_cons hs
        rw [hs'] at hlength
        exact hthen found c' r' s'' t'' h'' hs'' (by omega)

/-! ## Names -/

/-- The characters of a name and the closing angle bracket, which is not read. -/
theorem nameChars {F : Text → Reader γ} {G : Text → Reader δ} (h : Extends tail s t) {k l : Nat}
    (hk : s.rest.length < k) (hkl : k ≤ l) (first : Bool)
    (hthen : ∀ name r s' t', Extends tail s' t' → s'.rest = '>' :: r → s'.rest.length ≤ s.rest.length →
      Tracks tail n L R (F name) (G name) s' t') :
    Tracks tail n L R (Group.nameChars k first >>= F) (Group.nameChars l first >>= G) s t := by
  induction k generalizing s t l first F G with
  | zero => exact absurd hk (Nat.not_lt_zero _)
  | succ k ih =>
    obtain ⟨l, rfl⟩ : ∃ l', l = l' + 1 := ⟨l - 1, by omega⟩
    have hinvalid : ∀ {c : Char}, Group.isNameChar first c = false →
        (!Group.isNameChar first c) = true := fun hc => by rw [hc, Bool.not_false]
    unfold Group.nameChars
    simp only [bind_assoc]
    refine char_or_fail h ((Fails.failHere _).bind _) ((Fails.failHere _).bind _) (fun _ => ?_) fun c r hs => ?_
    · have hother : ¬ ')' = '>' := by decide
      refine Ends.of_fails (Fails.bind ?_ _)
      show Fails (if ')' = '>' then _ else _)
      rw [if_neg hother]
      refine Fails.ite_pos (hinvalid (Ends.isNameChar_paren first)) ?_
      exact Fails.bind_right _ fun _ => (Fails.fail _ _).bind _
    by_cases hc : c = '>'
    · subst hc
      simp only [if_true, pure_bind]
      exact hthen [] r s t h hs (Nat.le_refl _)
    · simp only [if_neg hc]
      by_cases hname : (!Group.isNameChar first c) = true
      · simp only [if_pos hname, bind_assoc]
        exact of_fails (Fails.bind_right _ fun _ => (Fails.fail _ _).bind _)
          (Fails.bind_right _ fun _ => (Fails.fail _ _).bind _)
      · simp only [if_neg hname, bind_assoc, pure_bind]
        have hcons := length_of_cons hs
        refine bump h hs fun s' t' h' hs' => ih h' (by rw [hs']; omega) (by omega) false ?_
        intro name r' s'' t'' h'' hs'' hlength
        rw [hs'] at hlength
        exact hthen (c :: name) r' s'' t'' h'' hs'' (by omega)

theorem lookup_eq_none {names names' : List (Text × Span)} (h : names'.map Prod.fst = names.map Prod.fst)
    (name : Text) : names.lookup name = none ↔ names'.lookup name = none := by
  have hkeys : ∀ entries : List (Text × Span), entries.lookup name = none ↔ name ∉ entries.map Prod.fst := by
    intro entries
    induction entries with
    | nil => simp
    | cons entry entries ih =>
      rw [List.lookup_cons, List.map_cons, List.mem_cons]
      by_cases heq : name = entry.1
      · simp [heq]
      · rw [beq_eq_false_iff_ne.mpr heq]
        simp only [ih, heq, false_or]
  rw [hkeys, hkeys, h]

theorem name (h : Extends tail s t) :
    Tracks tail s.rest.length Never (fun _ _ => True) Group.name Group.name s t := by
  unfold Group.name
  refine here fun start start' => get ?_
  refine nameChars h (Nat.lt_succ_self _) (Nat.succ_le_succ h.length_le) true fun name r s₁ t₁ h₁ hs₁ hlength₁ => ?_
  refine here fun stop stop' => bump h₁ hs₁ fun s₂ t₂ h₂ hs₂ => ?_
  refine guarded Iff.rfl ((Fails.fail _ _).bind _) ((Fails.fail _ _).bind _) fun _ => get ?_
  have hcons := length_of_cons hs₁
  have hknown := lookup_eq_none h₂.names name
  dsimp only
  cases hlookup : s₂.names.lookup name with
  | some earlier =>
    cases hlookup' : t₂.names.lookup name with
    | some earlier' => exact of_fails ((Fails.throw _).bind _) ((Fails.throw _).bind _)
    | none =>
      rw [hknown.mpr hlookup'] at hlookup
      cases hlookup
  | none =>
    rw [hknown.mp hlookup]
    refine of_ok rfl rfl (h₂.move h₂.verbose ?_ h₂.rest) trivial ?_
    · simp only [List.map_append, h₂.names, List.map_cons, List.map_nil]
    · show s₂.rest.length ≤ s.rest.length
      rw [hs₂]
      omega

/-! ## Openings -/

theorem lookAround {F : Bool → Reader γ} {G : Bool → Reader δ} (h : Extends tail s t) (hF : Fails (F true))
    (hG : Fails (G true)) (hno : Tracks tail n L R (F false) (G false) s t) :
    Tracks tail n L R (Group.lookAround >>= F) (Group.lookAround >>= G) s t := by
  have hfails : ∀ (text : Text) s' t', text.isPrefixOf s.rest = true → Extends tail s' t' →
      s'.rest = s.rest.drop text.length → Tracks tail n L R (F true) (G true) s' t' :=
    fun _ _ _ _ _ _ => of_fails hF hG
  unfold Group.lookAround
  simp only [bind_assoc]
  refine accept (by decide) h (hfails _) ?_
  simp only [bind_assoc, Bool.false_eq_true, if_false]
  refine accept (by decide) h (hfails _) ?_
  simp only [bind_assoc, Bool.false_eq_true, if_false]
  refine accept (by decide) h (hfails _) ?_
  simp only [Bool.false_eq_true, if_false]
  exact accept (by decide) h (hfails _) hno

theorem named {F : Bool → Reader γ} {G : Bool → Reader δ} (h : Extends tail s t)
    (hyes : ∀ s' t', Extends tail s' t' → s'.rest.length ≤ s.rest.length → Tracks tail n L R (F true) (G true) s' t')
    (hno : Tracks tail n L R (F false) (G false) s t) :
    Tracks tail n L R (Group.named >>= F) (Group.named >>= G) s t := by
  have hstep : ∀ (text : Text) s' t', text.isPrefixOf s.rest = true → Extends tail s' t' →
      s'.rest = s.rest.drop text.length → Tracks tail n L R (F true) (G true) s' t' := by
    intro text s' t' _ h' hrest
    refine hyes s' t' h' ?_
    rw [hrest, List.length_drop]
    exact Nat.sub_le _ _
  unfold Group.named
  simp only [bind_assoc]
  refine accept (by decide) h (hstep _) ?_
  simp only [Bool.false_eq_true, if_false]
  exact accept (by decide) h (hstep _) hno

theorem afterFlags (h : Extends tail s t) {c : Char} {r : Text} (hs : s.rest = c :: r) (paren paren' : Span)
    (mark mark' : Mark) (found : List Switch) :
    Tracks tail s.rest.length Never Group.Opening.Same (Group.afterFlags paren mark found)
      (Group.afterFlags paren' mark' found) s t := by
  have hcons := length_of_cons hs
  unfold Group.afterFlags
  refine char_of_cons h hs (bump h hs fun s' t' h' hs' => ite Iff.rfl (fun _ => ?_) fun _ => ?_)
  · refine guarded Iff.rfl ((Fails.fail _ _).bind _) ((Fails.fail _ _).bind _) fun _ => here fun _ _ => pure h' ?_ ?_
    · rfl
    · rw [hs']
      omega
  · refine pure h' ?_ ?_
    · exact ⟨rfl, rfl⟩
    · rw [hs']
      omega

theorem flagged (h : Extends tail s t) (paren paren' : Span) (mark mark' : Mark) :
    Tracks tail s.rest.length Beyond Group.Opening.Same (Group.flagged paren mark) (Group.flagged paren' mark')
      s t := by
  rw [Group.flagged_eq, Group.flagged_eq]
  refine unlessEnd h ((Fails.fail _ _).bind _) ((Fails.fail _ _).bind _) (fun ht => ?_) fun _ _ _ => get ?_
  · refine Ends.get ((Ends.switches _ _ ht).bind ?_)
    rintro found _ rfl
    exact Ends.afterFlags paren' mark' found ht
  · refine switches h (Nat.lt_succ_self _) (Nat.succ_le_succ h.length_le) ⟨rfl, rfl, rfl⟩ ?_ ?_
    · exact fun found c r s₁ t₁ h₁ hs₁ hlength₁ => (afterFlags h₁ hs₁ paren paren' mark mark' found).sure hlength₁
    · exact fun found t' ht' => Ends.afterFlags paren' mark' found ht'

theorem groupOpening (h : Extends tail s t) {c : Char} {r : Text} (hs : s.rest = c :: r) :
    Tracks tail r.length Beyond Group.Opening.Same Group.opening Group.opening s t := by
  unfold Group.opening
  refine charSpan fun paren paren' => step h hs fun s₁ t₁ h₁ hlength₁ => ?_
  refine lookAround h₁ ((Fails.failFrom _ _).bind _) ((Fails.failFrom _ _).bind _) (here fun mark mark' => ?_)
  refine named h₁ (fun s₂ t₂ h₂ hlength₂ => ?_) ?_
  · refine (name h₂).bind fun _ _ s₃ t₃ _ h₃ hlength₃ => pure h₃ ?_ (by omega)
    exact ⟨rfl, rfl⟩
  · refine accept (by decide) h₁ (fun s₂ t₂ _ h₂ hs₂ => ?_) ?_
    · refine (flagged h₂ paren paren' mark mark').mono ?_
      rw [hs₂, List.length_drop]
      omega
    · refine pure h₁ ?_ hlength₁
      exact ⟨rfl, rfl⟩

end Tracks

end LineShell.Pattern
