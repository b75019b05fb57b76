import LineShell.Pattern.Reader

/-!
Reading a part of a pattern with something behind it. What is behind is a tail: nothing, or the end of a
group and a boundary. A reader that succeeds before the end of a pattern succeeds before a tail, too, and
leaves the tail, unless a comment goes on to the end of both. The other way round, a reader that succeeds
before a tail and leaves it succeeds at the end of a pattern.

  - `Extends`: two states that differ in the tail, in places and in the places of names.
  - `Extends.advance`, `Extends.skip`: what going on keeps.
  - `Ends`: what holds if a reader succeeds.
  - `Tracks`: if one reader succeeds, the other one does, with a value that goes with it, and back unless
    the other one has lost its way in the tail.
  - `Tracks.bind` and the rules after it, one for each way to put readers together.
-/

namespace LineShell.Pattern

/-- The end of a group, and an edge of a word. -/
def closer : Text := [')', '\\', 'b']

/-- What can stand behind a pattern. -/
def Closing (tail : Text) : Prop := tail = [] ∨ tail = closer

theorem Closing.closes {tail : Text} (h : Closing tail) (c : Char) (hc : tail.head? = some c) : c = ')' := by
  rcases h with rfl | rfl
  · cases hc
  · exact (Option.some.inj hc).symm

theorem Closing.notMem {tail : Text} (h : Closing tail) {c : Char} (hc : c ∉ closer) : c ∉ tail := by
  rcases h with rfl | rfl
  · exact List.not_mem_nil
  · exact hc

theorem Closing.dropWhile_eq {tail : Text} (h : Closing tail) {p : Char → Bool} (hp : p ')' = false) :
    tail.dropWhile p = tail := by
  cases tail with
  | nil => rfl
  | cons c more =>
    obtain rfl := h.closes c rfl
    exact List.dropWhile_cons_of_neg (by simp [hp])

/-- A text without a closing parenthesis does not reach into the tail. -/
theorem Closing.isPrefixOf_append {tail text : Text} (h : Closing tail) (hparen : ')' ∉ text) (rest : Text) :
    text.isPrefixOf (rest ++ tail) = text.isPrefixOf rest := by
  induction text generalizing rest with
  | nil => rfl
  | cons c text ih =>
    obtain ⟨hc, htext⟩ := not_or.mp (mt List.mem_cons.mpr hparen)
    cases rest with
    | cons d rest => simp only [List.cons_append, List.isPrefixOf, ih htext rest]
    | nil =>
      cases tail with
      | nil => rfl
      | cons d more =>
        obtain rfl := h.closes d rfl
        simp only [List.nil_append, List.isPrefixOf, beq_eq_false_iff_ne.mpr (Ne.symm hc), Bool.false_and]

/-- The second state is at the same part of a pattern as the first one, but has the tail behind it, or
both are at the end. -/
structure Extends (tail : Text) (s t : ReadState) : Prop where
  closing : Closing tail
  verbose : t.verbose = s.verbose
  names : t.names.map Prod.fst = s.names.map Prod.fst
  rest : t.rest = s.rest ++ tail ∨ (s.rest = [] ∧ t.rest = [])

namespace ReadState

variable {s : ReadState} {c : Char} {r : Text}

theorem length_of_cons (h : s.rest = c :: r) : s.rest.length = r.length + 1 := by rw [h, List.length_cons]

theorem rest_advance (h : s.rest = c :: r) : s.advance.rest = r := by rw [advance, h]

@[simp] theorem verbose_advance (s : ReadState) : s.advance.verbose = s.verbose := by
  unfold advance
  split <;> rfl

@[simp] theorem names_advance (s : ReadState) : s.advance.names = s.names := by
  unfold advance
  split <;> rfl

theorem rest_advances {α : Type} (l : List α) (s : ReadState) :
    (l.foldl (fun s _ => s.advance) s).rest = s.rest.drop l.length := by
  induction l generalizing s with
  | nil => rfl
  | cons _ l ih =>
    rw [List.foldl_cons, ih, List.length_cons]
    cases hs : s.rest with
    | nil => rw [advance, hs, hs, List.drop_nil, List.drop_nil]
    | cons c r => rw [rest_advance hs, List.drop_succ_cons]

theorem skipFrom_suffix (comment : Bool) (m : Mark) (text : Text) : (skipFrom comment m text).2 <:+ text := by
  induction text generalizing comment m with
  | nil => cases comment <;> exact List.suffix_rfl
  | cons c r ih =>
    cases comment with
    | true => exact (ih _ _).trans (List.suffix_cons c r)
    | false =>
      simp only [skipFrom]
      split
      · exact (ih _ _).trans (List.suffix_cons c r)
      · split
        · exact (ih _ _).trans (List.suffix_cons c r)
        · exact List.suffix_rfl

@[simp] theorem verbose_skip (s : ReadState) : s.skip.verbose = s.verbose := by
  unfold skip
  split <;> rfl

@[simp] theorem names_skip (s : ReadState) : s.skip.names = s.names := by
  unfold skip
  split <;> rfl

theorem skip_suffix (s : ReadState) : s.skip.rest <:+ s.rest := by
  unfold skip
  split
  · exact skipFrom_suffix _ _ _
  · exact List.suffix_rfl

theorem length_skip_le (s : ReadState) : s.skip.rest.length ≤ s.rest.length := s.skip_suffix.length_le

/-- A comment goes on to the end of the line. -/
theorem skipFrom_oneLine {text : Text} (h : '\n' ∉ text) (m : Mark) : (skipFrom true m text).2 = [] := by
  induction text generalizing m with
  | nil => rfl
  | cons c r ih =>
    obtain ⟨hc, hr⟩ := not_or.mp (mt List.mem_cons.mpr h)
    have hcomment : decide (c ≠ '\n') = true := decide_eq_true (Ne.symm hc)
    rw [skipFrom, hcomment]
    exact ih hr _

/-- What is skipped before a tail is what is skipped before the end, and the tail if it is in a comment. -/
theorem skipFrom_append {tail : Text} (htail : Closing tail) (comment : Bool) (m m' : Mark) (text : Text) :
    (skipFrom comment m (text ++ tail)).2 = (skipFrom comment m' text).2 ++ tail ∨
      ((skipFrom comment m' text).2 = [] ∧ (skipFrom comment m (text ++ tail)).2 = []) := by
  induction text generalizing comment m m' with
  | nil =>
    cases comment with
    | true => exact Or.inr ⟨rfl, skipFrom_oneLine (htail.notMem (by decide)) m⟩
    | false =>
      left
      cases tail with
      | nil => rfl
      | cons c r =>
        obtain rfl := htail.closes c rfl
        rfl
  | cons c r ih =>
    cases comment with
    | true => exact ih ..
    | false =>
      simp only [List.cons_append, skipFrom]
      split
      · exact ih ..
      · split
        · exact ih ..
        · exact Or.inl rfl

end ReadState

namespace Extends

variable {tail : Text} {s t s' t' : ReadState} {c : Char} {r : Text}

theorem rest_of_cons (h : Extends tail s t) (hs : s.rest = c :: r) : t.rest = c :: (r ++ tail) := by
  rcases h.rest with hrest | ⟨hnil, -⟩
  · rw [hrest, hs, List.cons_append]
  · rw [hs] at hnil
    cases hnil

theorem head_of_nil (h : Extends tail s t) (hs : s.rest = []) : ∀ c, t.rest.head? = some c → c = ')' := by
  rcases h.rest with hrest | ⟨-, hnil⟩
  · rw [hrest, hs]
    exact h.closing.closes
  · rw [hnil]
    intro c hc
    cases hc

/-- At the end of a pattern, the other state is at the end or at the tail. -/
theorem rest_of_nil (h : Extends tail s t) (hs : s.rest = []) : t.rest = [] ∨ t.rest = closer := by
  rcases h.rest with hrest | ⟨-, hnil⟩
  · rw [hs, List.nil_append] at hrest
    rw [hrest]
    exact h.closing
  · exact Or.inl hnil

theorem suffix_of_nil (h : Extends tail s t) (hs : s.rest = []) : t.rest <:+ closer := by
  rcases h.rest_of_nil hs with ht | ht
  · exact ht ▸ List.nil_suffix
  · exact ht ▸ List.suffix_rfl

theorem length_le (h : Extends tail s t) : s.rest.length ≤ t.rest.length := by
  rcases h.rest with hrest | ⟨hs, -⟩
  · rw [hrest, List.length_append]
    exact Nat.le_add_right _ _
  · rw [hs]
    exact Nat.zero_le _

theorem move (h : Extends tail s t) (hverbose : t'.verbose = s'.verbose)
    (hnames : t'.names.map Prod.fst = s'.names.map Prod.fst)
    (hrest : t'.rest = s'.rest ++ tail ∨ (s'.rest = [] ∧ t'.rest = [])) : Extends tail s' t' :=
  ⟨h.closing, hverbose, hnames, hrest⟩

theorem advance (h : Extends tail s t) (hs : s.rest = c :: r) : Extends tail s.advance t.advance := by
  refine h.move ?_ ?_ (Or.inl ?_)
  · simp only [ReadState.verbose_advance, h.verbose]
  · simp only [ReadState.names_advance, h.names]
  · rw [ReadState.rest_advance hs, ReadState.rest_advance (h.rest_of_cons hs)]

theorem skip (h : Extends tail s t) : Extends tail s.skip t.skip := by
  refine h.move ?_ ?_ ?_
  · simp only [ReadState.verbose_skip, h.verbose]
  · simp only [ReadState.names_skip, h.names]
  · unfold ReadState.skip
    rw [h.verbose]
    by_cases hverbose : s.verbose = true
    · simp only [hverbose, if_true]
      rcases h.rest with hrest | ⟨hs, ht⟩
      · rw [hrest]
        exact ReadState.skipFrom_append h.closing false t.mark s.mark s.rest
      · rw [hs, ht]
        exact Or.inr ⟨rfl, rfl⟩
    · simp only [hverbose]
      exact h.rest

theorem advances {α : Type} {l : List α} (h : Extends tail s t) (hl : l.length ≤ s.rest.length) :
    Extends tail (l.foldl (fun s _ => s.advance) s) (l.foldl (fun s _ => s.advance) t) := by
  induction l generalizing s t with
  | nil => exact h
  | cons _ l ih =>
    cases hs : s.rest with
    | nil =>
      rw [hs] at hl
      exact absurd hl (Nat.not_succ_le_zero _)
    | cons c r =>
      refine ih (h.advance hs) ?_
      rw [ReadState.rest_advance hs]
      rw [hs] at hl
      exact Nat.le_of_succ_le_succ hl

theorem isPrefixOf_eq {text : Text} (h : Extends tail s t) (hparen : ')' ∉ text) :
    text.isPrefixOf t.rest = text.isPrefixOf s.rest := by
  rcases h.rest with hrest | ⟨hs, ht⟩
  · rw [hrest, h.closing.isPrefixOf_append hparen]
  · rw [hs, ht]

end Extends

/-! ## Results of one reader -/

theorem Reader.bind_eq_ok_iff {α β : Type} {f : Reader α} {F : α → Reader β} {s : ReadState}
    {y : β × ReadState} : (f >>= F) s = .ok y ↔ ∃ a s', f s = .ok (a, s') ∧ F a s' = .ok y := by
  show (f s >>= fun x => F x.1 x.2) = _ ↔ _
  cases hf : f s with
  | error c => simp [bind, Except.bind]
  | ok x =>
    constructor
    · exact fun h => ⟨x.1, x.2, rfl, h⟩
    · rintro ⟨a, s', hx, h⟩
      cases hx
      exact h

/-- If the reader succeeds, its value and the state are like that. -/
def Ends {α : Type} (L : α → ReadState → Prop) (f : Reader α) (s : ReadState) : Prop :=
  ∀ a s', f s = .ok (a, s') → L a s'

def Never {α : Type} (_ : α) (_ : ReadState) : Prop := False

/-- The part itself has been read, and maybe some of the closer. -/
def Behind {α : Type} (_ : α) (s : ReadState) : Prop := s.rest <:+ closer

/-- The parenthesis of the closer has been read. -/
def Beyond {α : Type} (_ : α) (s : ReadState) : Prop := s.rest <:+ closer.tail

theorem suffix_of_eq {s : ReadState} (hs : s.rest = closer) : s.rest <:+ closer := hs ▸ List.suffix_rfl

def Fails {α : Type} (f : Reader α) : Prop := ∀ s, Ends Never f s

namespace Ends

variable {α β : Type} {K : α → ReadState → Prop} {L : β → ReadState → Prop} {s : ReadState}

theorem of_fails {f : Reader β} (h : Fails f) : Ends L f s := fun b s' hf => (h s b s' hf).elim

theorem of_never {f : Reader β} (h : Ends Never f s) : Ends L f s := fun b s' hf => (h b s' hf).elim

theorem of_ok {f : Reader β} {b : β} {s' : ReadState} (hf : f s = .ok (b, s')) (hL : L b s') : Ends L f s := by
  intro _ _ h
  rw [hf] at h
  cases h
  exact hL

theorem of_error {f : Reader β} {c : Complaint} (hf : f s = .error c) : Ends L f s := by
  intro _ _ h
  rw [hf] at h
  cases h

theorem pure {b : β} (h : L b s) : Ends L (pure b) s := of_ok rfl h

theorem bind {f : Reader α} {F : α → Reader β} (h : Ends K f s) (hthen : ∀ a s', K a s' → Ends L (F a) s') :
    Ends L (f >>= F) s := by
  intro b s'' hf
  obtain ⟨a, s', ha, hF⟩ := Reader.bind_eq_ok_iff.mp hf
  exact hthen a s' (h a s' ha) b s'' hF

theorem ite {p : Prop} [Decidable p] {x y : Reader β} (hpos : p → Ends L x s) (hneg : ¬ p → Ends L y s) :
    Ends L (if p then x else y) s := by
  by_cases hp : p
  · rw [if_pos hp]
    exact hpos hp
  · rw [if_neg hp]
    exact hneg hp

theorem guarded {p : Prop} [Decidable p] {x y : Reader β} (hx : Fails x) (hy : Ends L y s) :
    Ends L (if p then x else y) s := ite (fun _ => of_fails hx) fun _ => hy

section Steps

open Reader

theorem get {F : ReadState → Reader β} (h : Ends L (F s) s) : Ends L (get >>= F) s := h

theorem update {F : Unit → Reader β} {u : ReadState → ReadState} (h : Ends L (F ()) (u s)) :
    Ends L (modify u >>= F) s := h

theorem here {F : Mark → Reader β} (h : ∀ m, Ends L (F m) s) : Ends L (here >>= F) s := h s.mark

theorem charSpan {F : Span → Reader β} (h : ∀ m, Ends L (F m) s) : Ends L (charSpan >>= F) s :=
  h ⟨s.mark, s.advance.mark⟩

theorem char {F : Option Char → Reader β} (h : Ends L (F s.rest.head?) s) : Ends L (char? >>= F) s := h

theorem bump {F : Unit → Reader β} (h : Ends L (F ()) s.advance) : Ends L (bump >>= F) s := h

theorem skip {F : Unit → Reader β} (h : Ends L (F ()) s.skip) : Ends L (skip >>= F) s := h

theorem step {F : Unit → Reader β} (h : Ends L (F ()) s.advance.skip) : Ends L (step >>= F) s := h

theorem of_char {F : Option Char → Reader β} (h : Ends L (char? >>= F) s) : Ends L (F s.rest.head?) s := h

theorem of_skip {F : Unit → Reader β} (h : Ends L (Reader.skip >>= F) s) : Ends L (F ()) s.skip := h

theorem unlessEnd {x y : Reader β} (hx : Fails x) (hy : Ends L y s) :
    Ends L (atEnd >>= fun b => if b = true then x else y) s := by
  have hend : Ends L (if s.rest.isEmpty = true then x else y) s := guarded hx hy
  exact hend

theorem atEnd {x y : Reader β} (hs : s.rest = []) (hx : Fails x) :
    Ends Never (atEnd >>= fun b => if b = true then x else y) s := by
  have hend : Ends Never (if s.rest.isEmpty = true then x else y) s := by
    rw [hs]
    exact hx s
  exact hend

end Steps

end Ends

namespace Fails

open Reader

variable {α β : Type}

theorem throw (c : Complaint) : Fails (throw c : Reader α) := fun _ => Ends.of_error rfl

theorem fail (fault : Fault) (span : Span) : Fails (fail fault span : Reader α) := throw _

theorem failHere (fault : Fault) : Fails (failHere fault : Reader α) := fun _ => Ends.of_error rfl

theorem failFrom (fault : Fault) (start : Mark) : Fails (failFrom fault start : Reader α) :=
  fun _ => Ends.of_error rfl

theorem bind {f : Reader α} (h : Fails f) (F : α → Reader β) : Fails (f >>= F) :=
  fun s => Ends.bind (h s) fun _ _ hnever => hnever.elim

theorem bind_right (f : Reader α) {F : α → Reader β} (h : ∀ a, Fails (F a)) : Fails (f >>= F) :=
  fun _ => Ends.bind (K := fun _ _ => True) (fun _ _ _ => trivial) fun a s' _ => h a s'

theorem ite_pos {p : Prop} [Decidable p] {x y : Reader α} (hp : p) (h : Fails x) :
    Fails (if p then x else y) := by
  rwa [if_pos hp]

theorem ite {p : Prop} [Decidable p] {x y : Reader α} (hx : Fails x) (hy : Fails y) :
    Fails (if p then x else y) := fun s => Ends.ite (fun _ => hx s) fun _ => hy s

end Fails

/-! ## Readers side by side -/

/-- Whenever the first reader succeeds, so does the second one. The values go together, the states still
differ in the tail only, and at most `n` characters are left. Whenever the second reader succeeds, so does
the first one, unless the result is a lost one. -/
structure Tracks {α β : Type} (tail : Text) (n : Nat) (L : β → ReadState → Prop) (Q : α → β → Prop)
    (f : Reader α) (g : Reader β) (s t : ReadState) : Prop where
  follow : ∀ a s', f s = .ok (a, s') →
    ∃ b t', g t = .ok (b, t') ∧ Q a b ∧ Extends tail s' t' ∧ s'.rest.length ≤ n
  back : ∀ b t', g t = .ok (b, t') → ¬ L b t' → ∃ a s', f s = .ok (a, s')

namespace Tracks

open Reader

variable {α β γ δ : Type} {tail : Text} {m n : Nat} {s t : ReadState} {K : β → ReadState → Prop}
  {L : δ → ReadState → Prop} {Q : α → β → Prop} {R : γ → δ → Prop}

/-- The first reader fails, and the second one is lost. -/
theorem of_ends {f : Reader γ} {g : Reader δ} (hf : Ends Never f s) (hg : Ends L g t) :
    Tracks tail n L R f g s t :=
  ⟨fun a s' h => (hf a s' h).elim, fun b t' h hL => absurd (hg b t' h) hL⟩

theorem of_fails {f : Reader γ} {g : Reader δ} (hf : Fails f) (hg : Fails g) : Tracks tail n L R f g s t :=
  of_ends (hf s) (Ends.of_fails hg)

theorem of_ok {f : Reader γ} {g : Reader δ} {c : γ} {d : δ} {s' t' : ReadState} (hf : f s = .ok (c, s'))
    (hg : g t = .ok (d, t')) (h : Extends tail s' t') (hR : R c d) (hn : s'.rest.length ≤ n) :
    Tracks tail n L R f g s t := by
  refine ⟨fun _ _ hf' => ?_, fun _ _ _ _ => ⟨c, s', hf⟩⟩
  rw [hf] at hf'
  cases hf'
  exact ⟨d, t', hg, hR, h, hn⟩

theorem pure {c : γ} {d : δ} (h : Extends tail s t) (hR : R c d) (hn : s.rest.length ≤ n) :
    Tracks tail n L R (pure c) (pure d) s t := of_ok rfl rfl h hR hn

/-- One part after the other. If the first part is lost, so is the rest. -/
theorem bind_or {f : Reader α} {g : Reader β} {F : α → Reader γ} {G : β → Reader δ}
    (hfirst : Tracks tail m K Q f g s t)
    (hthen : ∀ a b s' t', Q a b → Extends tail s' t' → s'.rest.length ≤ m → Tracks tail n L R (F a) (G b) s' t')
    (hlost : ∀ b t', K b t' → Ends L (G b) t') : Tracks tail n L R (f >>= F) (g >>= G) s t := by
  constructor
  · intro a s'' hf
    obtain ⟨x, s', hx, hF⟩ := bind_eq_ok_iff.mp hf
    obtain ⟨y, t', hy, hQ, h', hm⟩ := hfirst.follow x s' hx
    obtain ⟨b, t'', hG, hR, h'', hn⟩ := (hthen x y s' t' hQ h' hm).follow a s'' hF
    exact ⟨b, t'', bind_eq_ok_iff.mpr ⟨y, t', hy, hG⟩, hR, h'', hn⟩
  · intro b t'' hg hL
    obtain ⟨y, t', hy, hG⟩ := bind_eq_ok_iff.mp hg
    have hK : ¬ K y t' := fun hK => hL (hlost y t' hK b t'' hG)
    obtain ⟨x, s', hx⟩ := hfirst.back y t' hy hK
    obtain ⟨y', t₁, hy', hQ, h', hm⟩ := hfirst.follow x s' hx
    rw [hy] at hy'
    cases hy'
    obtain ⟨a, s'', hF⟩ := (hthen x y s' t' hQ h' hm).back b t'' hG hL
    exact ⟨a, s'', bind_eq_ok_iff.mpr ⟨x, s', hx, hF⟩⟩

theorem bind {f : Reader α} {g : Reader β} {F : α → Reader γ} {G : β → Reader δ}
    (hfirst : Tracks tail m Never Q f g s t)
    (hthen : ∀ a b s' t', Q a b → Extends tail s' t' → s'.rest.length ≤ m →
      Tracks tail n L R (F a) (G b) s' t') : Tracks tail n L R (f >>= F) (g >>= G) s t :=
  hfirst.bind_or hthen fun _ _ hnever => hnever.elim

theorem weaken {f : Reader γ} {g : Reader δ} {L' : δ → ReadState → Prop} (h : Tracks tail m L R f g s t)
    (hn : m ≤ n) (hL : ∀ b t', L b t' → L' b t') : Tracks tail n L' R f g s t := by
  refine ⟨fun a s' hf => ?_, fun b t' hg hL' => h.back b t' hg fun hb => hL' (hL b t' hb)⟩
  obtain ⟨b, t', hg, hR, h', hm⟩ := h.follow a s' hf
  exact ⟨b, t', hg, hR, h', Nat.le_trans hm hn⟩

theorem mono {f : Reader γ} {g : Reader δ} (h : Tracks tail m L R f g s t) (hn : m ≤ n) :
    Tracks tail n L R f g s t := h.weaken hn fun _ _ => id

theorem sure {f : Reader γ} {g : Reader δ} (h : Tracks tail m Never R f g s t) (hn : m ≤ n) :
    Tracks tail n L R f g s t := h.weaken hn fun _ _ hnever => hnever.elim

theorem get {F : ReadState → Reader γ} {G : ReadState → Reader δ} (h : Tracks tail n L R (F s) (G t) s t) :
    Tracks tail n L R (get >>= F) (get >>= G) s t := ⟨h.follow, h.back⟩

theorem update {F : Unit → Reader γ} {G : Unit → Reader δ} {u v : ReadState → ReadState}
    (h : Tracks tail n L R (F ()) (G ()) (u s) (v t)) :
    Tracks tail n L R (modify u >>= F) (modify v >>= G) s t := ⟨h.follow, h.back⟩

theorem here {F : Mark → Reader γ} {G : Mark → Reader δ} (h : ∀ m m', Tracks tail n L R (F m) (G m') s t) :
    Tracks tail n L R (here >>= F) (here >>= G) s t :=
  ⟨(h s.mark t.mark).follow, (h s.mark t.mark).back⟩

theorem charSpan {F : Span → Reader γ} {G : Span → Reader δ} (h : ∀ m m', Tracks tail n L R (F m) (G m') s t) :
    Tracks tail n L R (charSpan >>= F) (charSpan >>= G) s t :=
  have hspan := h ⟨s.mark, s.advance.mark⟩ ⟨t.mark, t.advance.mark⟩
  ⟨hspan.follow, hspan.back⟩

/-- The present character is the same one. At the end the other reader is at the end, too, or it sees the
tail. -/
theorem char {F : Option Char → Reader γ} {G : Option Char → Reader δ} (h : Extends tail s t)
    (hcons : ∀ c r, s.rest = c :: r → Tracks tail n L R (F (some c)) (G (some c)) s t)
    (hnil : s.rest = [] → t.rest = [] → Tracks tail n L R (F none) (G none) s t)
    (hparen : s.rest = [] → t.rest = closer → Tracks tail n L R (F none) (G (some ')')) s t) :
    Tracks tail n L R (char? >>= F) (char? >>= G) s t := by
  have hchar : Tracks tail n L R (F s.rest.head?) (G t.rest.head?) s t := by
    cases hs : s.rest with
    | cons c r =>
      rw [h.rest_of_cons hs]
      exact hcons c r hs
    | nil =>
      rcases h.rest_of_nil hs with ht | ht
      · rw [ht]
        exact hnil hs ht
      · rw [ht]
        exact hparen hs ht
  exact ⟨hchar.follow, hchar.back⟩

theorem char_of_cons {F : Option Char → Reader γ} {G : Option Char → Reader δ} (h : Extends tail s t) {c : Char}
    {r : Text} (hs : s.rest = c :: r) (hcons : Tracks tail n L R (F (some c)) (G (some c)) s t) :
    Tracks tail n L R (char? >>= F) (char? >>= G) s t := by
  refine char h (fun d r' hs' => ?_) (fun hs' => ?_) fun hs' => ?_
  · rw [hs] at hs'
    cases hs'
    exact hcons
  · rw [hs] at hs'
    cases hs'
  · rw [hs] at hs'
    cases hs'

theorem char_or_fail {F : Option Char → Reader γ} {G : Option Char → Reader δ} (h : Extends tail s t)
    (hF : Fails (F none)) (hG : Fails (G none)) (hparen : t.rest = closer → Ends L (G (some ')')) t)
    (hcons : ∀ c r, s.rest = c :: r → Tracks tail n L R (F (some c)) (G (some c)) s t) :
    Tracks tail n L R (char? >>= F) (char? >>= G) s t :=
  char h hcons (fun _ _ => of_fails hF hG) fun _ ht => of_ends (hF s) (hparen ht)

theorem unlessEnd {x F : Reader γ} {y G : Reader δ} (h : Extends tail s t) (hx : Fails x) (hy : Fails y)
    (hparen : t.rest = closer → Ends L G t) (hcons : ∀ c r, s.rest = c :: r → Tracks tail n L R F G s t) :
    Tracks tail n L R (atEnd >>= fun b => if b = true then x else F)
      (atEnd >>= fun b => if b = true then y else G) s t := by
  have hend : Tracks tail n L R (if s.rest.isEmpty = true then x else F)
      (if t.rest.isEmpty = true then y else G) s t := by
    cases hs : s.rest with
    | cons c r =>
      rw [h.rest_of_cons hs]
      exact hcons c r hs
    | nil =>
      rcases h.rest_of_nil hs with ht | ht
      · rw [ht]
        exact of_fails hx hy
      · rw [ht]
        exact of_ends (hx s) (hparen ht)
  exact ⟨hend.follow, hend.back⟩

theorem ite {p q : Prop} [Decidable p] [Decidable q] {F F' : Reader γ} {G G' : Reader δ} (hpq : p ↔ q)
    (hpos : p → Tracks tail n L R F G s t) (hneg : ¬ p → Tracks tail n L R F' G' s t) :
    Tracks tail n L R (if p then F else F') (if q then G else G') s t := by
  by_cases hp : p
  · rw [if_pos hp, if_pos (hpq.mp hp)]
    exact hpos hp
  · rw [if_neg hp, if_neg (mt hpq.mpr hp)]
    exact hneg hp

theorem guarded {p q : Prop} [Decidable p] [Decidable q] {x F : Reader γ} {y G : Reader δ} (hpq : p ↔ q)
    (hx : Fails x) (hy : Fails y) (h : ¬ p → Tracks tail n L R F G s t) :
    Tracks tail n L R (if p then x else F) (if q then y else G) s t :=
  ite hpq (fun _ => of_fails hx hy) h

theorem bump {F : Unit → Reader γ} {G : Unit → Reader δ} (h : Extends tail s t) {c : Char} {r : Text}
    (hs : s.rest = c :: r)
    (hthen : ∀ s' t', Extends tail s' t' → s'.rest = r → Tracks tail n L R (F ()) (G ()) s' t') :
    Tracks tail n L R (bump >>= F) (bump >>= G) s t :=
  have hbump := hthen s.advance t.advance (h.advance hs) (ReadState.rest_advance hs)
  ⟨hbump.follow, hbump.back⟩

theorem step_to {F : Unit → Reader γ} {G : Unit → Reader δ} {c : Char} {r : Text} (hs : s.rest = c :: r)
    (hthen : s.advance.skip.rest.length ≤ r.length →
      Tracks tail n L R (F ()) (G ()) s.advance.skip t.advance.skip) :
    Tracks tail n L R (step >>= F) (step >>= G) s t := by
  have hlength := s.advance.length_skip_le
  rw [ReadState.rest_advance hs] at hlength
  exact ⟨(hthen hlength).follow, (hthen hlength).back⟩

theorem step {F : Unit → Reader γ} {G : Unit → Reader δ} (h : Extends tail s t) {c : Char} {r : Text}
    (hs : s.rest = c :: r)
    (hthen : ∀ s' t', Extends tail s' t' → s'.rest.length ≤ r.length → Tracks tail n L R (F ()) (G ()) s' t') :
    Tracks tail n L R (step >>= F) (step >>= G) s t :=
  step_to hs fun hlength => hthen s.advance.skip t.advance.skip (h.advance hs).skip hlength

theorem skip {F : Unit → Reader γ} {G : Unit → Reader δ} (h : Extends tail s t)
    (hthen : ∀ s' t', Extends tail s' t' → s'.rest.length ≤ s.rest.length →
      Tracks tail n L R (F ()) (G ()) s' t') : Tracks tail n L R (skip >>= F) (skip >>= G) s t :=
  have hskip := hthen s.skip t.skip h.skip s.length_skip_le
  ⟨hskip.follow, hskip.back⟩

/-- Going past a text that holds no closing parenthesis. -/
theorem accept {F : Bool → Reader γ} {G : Bool → Reader δ} {text : Text} (hparen : ')' ∉ text)
    (h : Extends tail s t)
    (hyes : ∀ s' t', text.isPrefixOf s.rest = true → Extends tail s' t' → s'.rest = s.rest.drop text.length →
      Tracks tail n L R (F true) (G true) s' t')
    (hno : Tracks tail n L R (F false) (G false) s t) :
    Tracks tail n L R (accept text >>= F) (accept text >>= G) s t := by
  have hrun : ∀ {ε : Type} (H : Bool → Reader ε) (u : ReadState), (Reader.accept text >>= H) u =
      if text.isPrefixOf u.rest = true then H true (text.foldl (fun u _ => u.advance) u) else H false u := by
    intro ε H u
    show ((if text.isPrefixOf u.rest = true then _ else _ : Reader Bool) >>= H) u = _
    by_cases hu : text.isPrefixOf u.rest = true
    · simp only [if_pos hu]
      rfl
    · simp only [if_neg hu]
      rfl
  by_cases hs : text.isPrefixOf s.rest = true
  · have hlength := (List.isPrefixOf_iff_prefix.mp hs).length_le
    have hthen := hyes _ _ hs (h.advances hlength) (ReadState.rest_advances text s)
    constructor
    · rw [hrun, hrun, h.isPrefixOf_eq hparen, if_pos hs, if_pos hs]
      exact hthen.follow
    · rw [hrun, hrun, h.isPrefixOf_eq hparen, if_pos hs, if_pos hs]
      exact hthen.back
  · constructor
    · rw [hrun, hrun, h.isPrefixOf_eq hparen, if_neg hs, if_neg hs]
      exact hno.follow
    · rw [hrun, hrun, h.isPrefixOf_eq hparen, if_neg hs, if_neg hs]
      exact hno.back

/-- Where no character of the class stands, none is taken. -/
theorem takeAtMost_stop {p : Char → Bool} (hp : ∀ c, t.rest.head? = some c → p c = false) (k : Nat) :
    Reader.takeAtMost p k t = .ok ([], t) := by
  cases k with
  | zero => rfl
  | succ k =>
    obtain ⟨rest, mark, verbose, names⟩ := t
    cases rest with
    | nil => rfl
    | cons c r =>
      have hc : ¬ p c = true := Bool.eq_false_iff.mp (hp c rfl)
      show (if p c = true then _ else _ : Reader Text) _ = _
      rw [if_neg hc]
      rfl

theorem takeAtMost_end {p : Char → Bool} (hp : p ')' = false) (h : Extends tail s t) (hs : s.rest = [])
    (k l : Nat) : Tracks tail n Never Eq (takeAtMost p k) (takeAtMost p l) s t := by
  have hstop : ∀ c, t.rest.head? = some c → p c = false := fun c hc => h.head_of_nil hs c hc ▸ hp
  exact of_ok (takeAtMost_stop (by simp [hs]) k) (takeAtMost_stop hstop l) h rfl (by simp [hs])

theorem takeAtMost {p : Char → Bool} (hp : p ')' = false) (h : Extends tail s t) {k l : Nat}
    (hk : s.rest.length ≤ k) (hkl : k ≤ l) :
    Tracks tail s.rest.length Never Eq (takeAtMost p k) (takeAtMost p l) s t := by
  induction k generalizing s t l with
  | zero => exact takeAtMost_end hp h (List.length_eq_zero_iff.mp (Nat.le_zero.mp hk)) 0 l
  | succ k ih =>
    obtain ⟨l, rfl⟩ : ∃ l', l = l' + 1 := ⟨l - 1, by omega⟩
    cases hs : s.rest with
    | nil => exact takeAtMost_end hp h hs (k + 1) (l + 1)
    | cons c r =>
      refine char_of_cons h hs ?_
      by_cases hc : p c = true
      · simp only [if_pos hc]
        refine step h hs fun s' t' h' hlength => ?_
        rw [hs, List.length_cons] at hk
        refine (ih h' (by omega) (by omega)).bind ?_
        rintro a _ s'' t'' rfl h'' hlength'
        exact pure h'' rfl (Nat.le_succ_of_le (Nat.le_trans hlength' hlength))
      · simp only [if_neg hc]
        exact pure h rfl (Nat.le_of_eq (congrArg List.length hs))

theorem takeWhile {p : Char → Bool} (hp : p ')' = false) (h : Extends tail s t) :
    Tracks tail s.rest.length Never Eq (takeWhile p) (takeWhile p) s t :=
  have htake := takeAtMost hp h (Nat.le_refl _) h.length_le
  ⟨htake.follow, htake.back⟩

end Tracks

end LineShell.Pattern
