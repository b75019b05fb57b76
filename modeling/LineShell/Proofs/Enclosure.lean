import LineShell.Proofs.Tracking.Parse

/-!
A pattern put into a group between two word boundaries, as a text. Where the pattern can be read on its
own, the text is read as the two boundaries and a group with just this pattern, but for spans. The one
exception is a pattern that ends in a comment of verbose mode: then the closing parenthesis belongs to the
comment, and the group is not closed. Where the pattern cannot be read, neither can the text, unless the
pattern closes a group that it has not opened, or starts with a question mark, which belongs to the opening
parenthesis then.

  - `ofText_eq_ok_iff`: a pattern can be read exactly if its body goes to its end.
  - `bodyFrom_behind`, `bodyFrom_moved`: the same body with something behind it, or at another place.
  - `body_boundary`, `body_group`, `body_end`: the steps from the first boundary to the last one.
  - `ofText_betweenEdges`: what is read of the text if the pattern can be read.
  - `ofText_of_betweenEdges`: if the text can be read, so can the pattern.
-/

namespace LineShell.Pattern

open Reader ReadState

def betweenEdges (pattern : Text) : Text := "\\b(".toList ++ pattern ++ ")\\b".toList

def Tree.betweenEdges (t : Tree) : Tree :=
  .sequence .nowhere [.anchor .nowhere (.word .edge), .group .nowhere true [] t, .anchor .nowhere (.word .edge)]

/-- Does a comment take in what stands behind the pattern? If not, the closing parenthesis there is one too
many. -/
def swallows (pattern : Text) : Bool := (Tree.ofText (pattern ++ ")\\b".toList)).isOk

def overcloses (pattern : Text) : Bool :=
  match Tree.ofText pattern with
  | .error c => c.fault == .groupUnopened
  | .ok _ => false

/-! ## Bodies of whole patterns -/

def bodyFrom (n : Nat) : Reader Tree := fun s => Parse.body n { start := s.mark } s.mark [] s

theorem whole_eq (s : ReadState) :
    Parse.whole s = (bodyFrom (s.rest.length + 1) s).bind fun x =>
      if x.2.rest.isEmpty then .ok x
      else .error { fault := .groupUnopened, span := ⟨x.2.mark, x.2.advance.mark⟩ } := by
  have hwhole : Parse.whole s = (bodyFrom (s.rest.length + 1) >>= fun tree => atEnd >>= fun ended =>
      if (!ended) = true then charSpan >>= fun span => fail .groupUnopened span >>= fun _ => pure tree
      else pure tree) s := rfl
  rw [hwhole]
  show (bodyFrom (s.rest.length + 1) s >>= _) = _
  cases bodyFrom (s.rest.length + 1) s with
  | error c => rfl
  | ok x =>
    obtain ⟨tree, s'⟩ := x
    show (if (!s'.rest.isEmpty) = true then _ else _ : Reader Tree) s' = if s'.rest.isEmpty = true then _ else _
    cases s'.rest.isEmpty <;> rfl

theorem ofText_eq (pattern : Text) :
    Tree.ofText pattern = (bodyFrom (pattern.length + 1) { rest := pattern }).bind fun x =>
      if x.2.rest.isEmpty then .ok x.1
      else .error { fault := .groupUnopened, span := ⟨x.2.mark, x.2.advance.mark⟩ } := by
  unfold Tree.ofText
  rw [StateT.run, whole_eq]
  cases bodyFrom (pattern.length + 1) { rest := pattern } with
  | error c => rfl
  | ok x =>
    show Except.map _ (if x.2.rest.isEmpty = true then _ else _) = if x.2.rest.isEmpty = true then _ else _
    cases x.2.rest.isEmpty <;> rfl

theorem ofText_eq_ok_iff {pattern : Text} {t : Tree} :
    Tree.ofText pattern = .ok t ↔
      ∃ s', bodyFrom (pattern.length + 1) { rest := pattern } = .ok (t, s') ∧ s'.rest = [] := by
  rw [ofText_eq]
  cases bodyFrom (pattern.length + 1) { rest := pattern } with
  | error c => simp [Except.bind]
  | ok x =>
    obtain ⟨u, s'⟩ := x
    cases hs' : s'.rest <;> simp [Except.bind, hs']

theorem extends_start {tail : Text} (h : Closing tail) {s t : ReadState} (hrest : t.rest = s.rest ++ tail)
    (hverbose : t.verbose = s.verbose) (hnames : t.names = s.names) : Extends tail s t :=
  ⟨h, hverbose, congrArg _ hnames, Or.inl hrest⟩

theorem tracks_bodyFrom {tail : Text} {s t : ReadState} {k l spare : Nat} (hst : Extends tail s t)
    (hk : s.rest.length < k) (hkl : k + spare ≤ l) :
    Tracks tail s.rest.length (Used spare) Tree.Same (bodyFrom k) (bodyFrom l) s t := by
  have hbody : Tracks tail s.rest.length (Used spare) Tree.Same (Parse.body k { start := s.mark } s.mark [])
      (Parse.body l { start := t.mark } t.mark []) s t := by
    refine Tracks.body hst hk hkl ?_ s.mark t.mark ?_ <;> rfl
  exact ⟨hbody.follow, hbody.back⟩

/-- What is read of a whole pattern is read of it with something behind it, which is left or in a comment. -/
theorem bodyFrom_behind {tail : Text} {s t s' : ReadState} {a : Tree} {k l : Nat}
    (hbody : bodyFrom k s = .ok (a, s')) (hs' : s'.rest = []) (hst : Extends tail s t) (hk : s.rest.length < k)
    (hkl : k ≤ l) : ∃ b t', bodyFrom l t = .ok (b, t') ∧ a.Same b ∧ (t'.rest = tail ∨ t'.rest = []) := by
  have htracks : Tracks tail s.rest.length (Used 0) Tree.Same (bodyFrom k) (bodyFrom l) s t :=
    tracks_bodyFrom hst hk hkl
  obtain ⟨b, t', hbody', hab, hst', -⟩ := htracks.follow a s' hbody
  refine ⟨b, t', hbody', hab, ?_⟩
  rcases hst'.rest with hrest | ⟨-, hnil⟩
  · rw [hs'] at hrest
    exact Or.inl hrest
  · exact Or.inr hnil

/-- Where a pattern stands does not matter to what is left of it. -/
theorem bodyFrom_moved {s t s' t' : ReadState} {a b : Tree} {k l : Nat} (hrest : t.rest = s.rest)
    (hverbose : t.verbose = s.verbose) (hnames : t.names = s.names) (hk : s.rest.length < k) (hkl : k ≤ l)
    (hs : bodyFrom k s = .ok (a, s')) (ht : bodyFrom l t = .ok (b, t')) : t'.rest = s'.rest := by
  have hst : Extends [] s t := extends_start (Or.inl rfl) (by rw [hrest, List.append_nil]) hverbose hnames
  have htracks : Tracks [] s.rest.length (Used 0) Tree.Same (bodyFrom k) (bodyFrom l) s t :=
    tracks_bodyFrom hst hk hkl
  obtain ⟨b', t'', ht'', -, hst', -⟩ := htracks.follow a s' hs
  rw [ht] at ht''
  cases ht''
  rcases hst'.rest with hrest | ⟨hnil, hnil'⟩
  · rwa [List.append_nil] at hrest
  · rw [hnil, hnil']

/-! ## The steps of a body -/

section Steps

variable {s s' : ReadState} {r : Text} {n : Nat} {b : Parse.Branches} {start : Mark} {items : List Tree}

theorem bind_of_ok {α β : Type} {f : Reader α} {F : α → Reader β} {a : α} (h : f s = .ok (a, s')) :
    (f >>= F) s = F a s' := by
  show (f s >>= fun x => F x.1 x.2) = _
  rw [h]
  rfl

theorem bind_of_error {α β : Type} {f : Reader α} {F : α → Reader β} {c : Complaint} (h : f s = .error c) :
    (f >>= F) s = .error c := by
  show (f s >>= fun x => F x.1 x.2) = _
  rw [h]
  rfl

theorem skip_of_plain (h : s.verbose = false) : s.skip = s := by
  unfold ReadState.skip
  rw [h]
  rfl

/-- Without a name behind it, the boundary is an edge. -/
theorem boundary_edge (h : s.rest.head? ≠ some '\x7b') (start : Mark) : Escape.boundary start s = .ok (.edge, s) := by
  show (if (s.rest.head? != some '\x7b') = true then _ else _ : Reader Boundary) s = _
  rw [if_pos (bne_iff_ne.mpr h)]
  rfl

theorem escape_edge (hs : s.rest = '\\' :: 'b' :: r) (hr : r.head? ≠ some '\x7b') :
    Reader.escape s = .ok (.anchor ⟨s.mark, s.advance.advance.mark⟩ (.word .edge), s.advance.advance) := by
  obtain ⟨rest, mark, verbose, names⟩ := s
  subst hs
  have hbehind : (ReadState.mk ('\\' :: 'b' :: r) mark verbose names).advance.advance.rest.head? ≠ some '\x7b' := hr
  refine bind_eq_ok_iff.mpr ⟨mark, _, rfl, bind_eq_ok_iff.mpr ⟨(), _, rfl, bind_eq_ok_iff.mpr ⟨some 'b', _, rfl, ?_⟩⟩⟩
  refine bind_eq_ok_iff.mpr ⟨(), _, rfl, bind_eq_ok_iff.mpr ⟨_, _, rfl, ?_⟩⟩
  exact bind_eq_ok_iff.mpr ⟨_, _, boundary_edge hbehind _, rfl⟩

theorem body_boundary (hs : s.rest = '\\' :: 'b' :: r) (hr : r.head? ≠ some '\x7b') (hverbose : s.verbose = false) :
    Parse.body (n + 1) b start items s =
      Parse.body n b start (.anchor ⟨s.mark, s.advance.advance.mark⟩ (.word .edge) :: items) s.advance.advance := by
  have hskip : Reader.skip s = .ok ((), s) := congrArg (fun u => Except.ok ((), u)) (skip_of_plain hverbose)
  have hchar : char? s = .ok (some '\\', s) := by
    show Except.ok (s.rest.head?, s) = _
    rw [hs]
    rfl
  have hitem : Parse.item '\\' s = Reader.escape s := rfl
  rw [escape_edge hs hr] at hitem
  rw [Parse.body, bind_of_ok hskip, bind_of_ok hchar]
  show (Parse.item '\\' >>= fun t => Parse.body n b start (t :: items)) s = _
  rw [bind_of_ok hitem]

theorem opening_plain (hs : s.rest = '(' :: r) (hr : r.head? ≠ some '?') (hverbose : s.verbose = false) :
    Group.opening s = .ok (.body ⟨s.mark, s.advance.mark⟩ true [], s.advance) := by
  have hrest : s.advance.rest = r := rest_advance hs
  have hstep : step s = .ok ((), s.advance) := by
    have hplain : s.advance.verbose = false := by rwa [verbose_advance]
    exact congrArg (fun u => Except.ok ((), u)) (skip_of_plain hplain)
  have haccept : ∀ text : Text, text.head? = some '?' → accept text s.advance = .ok (false, s.advance) := by
    intro text htext
    have hno : text.isPrefixOf s.advance.rest = false := by
      rw [hrest]
      cases text with
      | nil => cases htext
      | cons d text =>
        cases htext
        cases r with
        | nil => rfl
        | cons c r =>
          have hc : ('?' == c) = false := beq_eq_false_iff_ne.mpr fun heq => hr (heq ▸ rfl)
          rw [List.isPrefixOf, hc, Bool.false_and]
    show (if text.isPrefixOf s.advance.rest = true then _ else _ : Reader Bool) s.advance = _
    rw [hno]
    rfl
  have hlook : Group.lookAround s.advance = .ok (false, s.advance) :=
    bind_eq_ok_iff.mpr ⟨_, _, haccept _ rfl, bind_eq_ok_iff.mpr ⟨_, _, haccept _ rfl,
      bind_eq_ok_iff.mpr ⟨_, _, haccept _ rfl, haccept _ rfl⟩⟩⟩
  have hnamed : Group.named s.advance = .ok (false, s.advance) :=
    bind_eq_ok_iff.mpr ⟨_, _, haccept _ rfl, haccept _ rfl⟩
  unfold Group.opening
  refine bind_eq_ok_iff.mpr ⟨_, s, rfl, bind_eq_ok_iff.mpr ⟨(), _, hstep, bind_eq_ok_iff.mpr ⟨_, _, hlook, ?_⟩⟩⟩
  refine bind_eq_ok_iff.mpr ⟨_, _, rfl, bind_eq_ok_iff.mpr ⟨_, _, hnamed, ?_⟩⟩
  exact bind_eq_ok_iff.mpr ⟨_, _, haccept ['?'] rfl, rfl⟩

theorem body_group (hs : s.rest = '(' :: r) (hr : r.head? ≠ some '?') (hverbose : s.verbose = false) :
    Parse.body (n + 1) b start items s = (bodyFrom n s.advance).bind fun x =>
      if x.2.rest.isEmpty then .error { fault := .groupUnclosed, span := ⟨s.mark, s.advance.mark⟩ }
      else
        let u := { x.2 with verbose := false }.advance
        Parse.body n b start (.group ⟨s.mark, u.mark⟩ true [] x.1 :: items) u := by
  have hskip : Reader.skip s = .ok ((), s) := congrArg (fun u => Except.ok ((), u)) (skip_of_plain hverbose)
  have hchar : char? s = .ok (some '(', s) := by
    show Except.ok (s.rest.head?, s) = _
    rw [hs]
    rfl
  have hget : (get : Reader ReadState) s = .ok (s, s) := rfl
  have hmode : (modify fun u => { u with verbose := s.verbose } : Reader Unit) s.advance = .ok ((), s.advance) := by
    rw [← verbose_advance s]
    rfl
  have hhere : here s.advance = .ok (s.advance.mark, s.advance) := rfl
  have hbody : Parse.body n { start := s.advance.mark } s.advance.mark [] s.advance = bodyFrom n s.advance := rfl
  rw [Parse.body, bind_of_ok hskip, bind_of_ok hchar]
  refine (bind_of_ok hget).trans ((bind_of_ok (opening_plain hs hr hverbose)).trans ?_)
  refine (bind_of_ok hmode).trans ((bind_of_ok hhere).trans ?_)
  cases hinner : bodyFrom n s.advance with
  | error c => exact bind_of_error (hbody.trans hinner)
  | ok x =>
    obtain ⟨inner, s'⟩ := x
    refine (bind_of_ok (hbody.trans hinner)).trans ?_
    show (if s'.rest.isEmpty = true then _ else _ : Reader Tree) s' = if s'.rest.isEmpty = true then _ else _
    rw [hverbose]
    cases s'.rest.isEmpty <;> rfl

theorem body_end (hs : s.rest = []) (hverbose : s.verbose = false) :
    Parse.body (n + 1) b start items s = .ok (b.close s.mark (Parse.branch start s.mark items), s) := by
  have hskip : Reader.skip s = .ok ((), s) := congrArg (fun u => Except.ok ((), u)) (skip_of_plain hverbose)
  have hchar : char? s = .ok (none, s) := by
    show Except.ok (s.rest.head?, s) = _
    rw [hs]
    rfl
  rw [Parse.body, bind_of_ok hskip, bind_of_ok hchar]
  rfl

end Steps

/-! ## A pattern between edges -/

/-- A pattern that can be read does not start with a question mark. -/
theorem head_of_ofText {pattern : Text} {t : Tree} (h : Tree.ofText pattern = .ok t) : pattern.head? ≠ some '?' := by
  intro hhead
  cases pattern with
  | nil => cases hhead
  | cons c r =>
    cases hhead
    have hrefused : Tree.ofText ('?' :: r) = .error { fault := .repetitionMissing, span := Span.point {} } := rfl
    rw [hrefused] at h
    cases h

theorem betweenEdges_eq (pattern : Text) :
    betweenEdges pattern = '\\' :: 'b' :: '(' :: (pattern ++ ")\\b".toList) := rfl

/-- The state in which the body of the group between edges is read. -/
def insideEdges (pattern : Text) : ReadState :=
  let whole : ReadState := { rest := betweenEdges pattern }
  whole.advance.advance.advance

/-- The body of the group, and whether a comment takes in what is behind it. -/
theorem body_insideEdges {pattern : Text} {t : Tree} (h : Tree.ofText pattern = .ok t) :
    ∃ u s', bodyFrom (pattern.length + 5) (insideEdges pattern) = .ok (u, s') ∧ t.Same u ∧
      s'.rest = if swallows pattern then [] else ")\\b".toList := by
  obtain ⟨s₀, hbody, hs₀⟩ := ofText_eq_ok_iff.mp h
  let behind : ReadState := { rest := pattern ++ ")\\b".toList }
  have hlength : behind.rest.length = pattern.length + 3 := List.length_append
  obtain ⟨v, v', hv, -, hv'⟩ := bodyFrom_behind (l := behind.rest.length + 1) hbody hs₀
    (extends_start (Or.inr rfl) (t := behind) rfl rfl rfl) (Nat.lt_succ_self _) (by omega)
  obtain ⟨u, u', hu, hsame, -⟩ := bodyFrom_behind (l := pattern.length + 5) hbody hs₀
    (extends_start (Or.inr rfl) (t := insideEdges pattern) rfl rfl rfl) (Nat.lt_succ_self _) (by omega)
  have hrest : u'.rest = v'.rest :=
    bodyFrom_moved (s := behind) (t := insideEdges pattern) rfl rfl rfl (Nat.lt_succ_self _) (by omega) hv hu
  refine ⟨u, u', hu, hsame, hrest.trans ?_⟩
  have hread : swallows pattern = true ↔ v'.rest = [] := by
    have hok : swallows pattern = true ↔ ∃ a, Tree.ofText behind.rest = .ok a := by
      unfold swallows
      show (Tree.ofText behind.rest).isOk = true ↔ _
      cases Tree.ofText behind.rest <;> simp [Except.isOk, Except.toBool]
    rw [hok]
    constructor
    · rintro ⟨a, ha⟩
      obtain ⟨s', hs', hnil⟩ := ofText_eq_ok_iff.mp ha
      rw [hv] at hs'
      cases hs'
      exact hnil
    · exact fun hnil => ⟨v, ofText_eq_ok_iff.mpr ⟨v', hv, hnil⟩⟩
  rcases hv' with hv' | hv'
  · have hno : ¬ swallows pattern = true := by
      rw [hread, hv']
      decide
    rw [if_neg hno]
    exact hv'
  · rw [if_pos (hread.mpr hv'), hv']

/-- The first boundary, and the group. -/
theorem bodyFrom_betweenEdges {pattern : Text} (hquestion : pattern.head? ≠ some '?') :
    let whole : ReadState := { rest := betweenEdges pattern }
    let paren := whole.advance.advance
    let first : Tree := .anchor ⟨whole.mark, paren.mark⟩ (.word .edge)
    bodyFrom ((betweenEdges pattern).length + 1) whole =
      (bodyFrom (pattern.length + 5) (insideEdges pattern)).bind fun x =>
        if x.2.rest.isEmpty then .error { fault := .groupUnclosed, span := ⟨paren.mark, paren.advance.mark⟩ }
        else
          let u := { x.2 with verbose := false }.advance
          Parse.body (pattern.length + 5) { start := whole.mark } whole.mark
            [.group ⟨paren.mark, u.mark⟩ true [] x.1, first] u := by
  intro whole paren first
  have hlength : (betweenEdges pattern).length = pattern.length + 6 := by
    rw [betweenEdges_eq]
    simp
  have hparen : ('(' :: (pattern ++ ")\\b".toList)).head? ≠ some '\x7b' := by
    show some '(' ≠ some '\x7b'
    decide
  have hbehind : (pattern ++ ")\\b".toList).head? ≠ some '?' := by
    cases pattern with
    | nil => decide
    | cons c r => exact hquestion
  rw [hlength]
  exact (body_boundary rfl hparen rfl).trans (body_group rfl hbehind rfl)

/-- A pattern that can be read is read between edges, too, unless a comment takes in what is behind it. -/
theorem ofText_betweenEdges {pattern : Text} {t : Tree} (h : Tree.ofText pattern = .ok t) :
    if swallows pattern then ∃ c, Tree.ofText (betweenEdges pattern) = .error c
    else ∃ u, Tree.ofText (betweenEdges pattern) = .ok u ∧ u.Same t.betweenEdges := by
  obtain ⟨u, s', hinner, hsame, hrest⟩ := body_insideEdges h
  have hbody := bodyFrom_betweenEdges (head_of_ofText h)
  rw [hinner] at hbody
  by_cases hswallows : swallows pattern = true
  · rw [if_pos hswallows]
    rw [if_pos hswallows] at hrest
    rw [ofText_eq, hbody]
    simp [Except.bind, hrest]
  · rw [if_neg hswallows]
    rw [if_neg hswallows] at hrest
    have hopen : ¬ s'.rest.isEmpty = true := by
      rw [hrest]
      decide
    let closed : ReadState := { s' with verbose := false }.advance
    have hclosed : closed.rest = ['\\', 'b'] := rest_advance hrest
    have hplain : closed.verbose = false := verbose_advance _
    have hend : closed.advance.advance.rest = [] := by
      rw [rest_advance (rest_advance hclosed)]
    have hlast : closed.advance.advance.verbose = false := by rw [verbose_advance, verbose_advance, hplain]
    have hread := ((hbody.trans (if_neg hopen)).trans
      (body_boundary (n := pattern.length + 4) hclosed (by decide) hplain)).trans
      (body_end (n := pattern.length + 3) hend hlast)
    refine ⟨_, ofText_eq_ok_iff.mpr ⟨_, hread, hend⟩, ?_⟩
    exact congrArg (fun body => Tree.sequence .nowhere
      [.anchor .nowhere (.word .edge), .group .nowhere true [] body, .anchor .nowhere (.word .edge)]) hsame.symm

/-- If a pattern can be read between edges, it can be read on its own, or its parentheses pair up with those
around it. -/
theorem ofText_of_betweenEdges {pattern : Text} {u : Tree} (h : Tree.ofText (betweenEdges pattern) = .ok u)
    (hquestion : pattern.head? ≠ some '?') (hcloses : overcloses pattern = false) :
    ∃ t, Tree.ofText pattern = .ok t := by
  obtain ⟨s', hs', -⟩ := ofText_eq_ok_iff.mp h
  rw [bodyFrom_betweenEdges hquestion] at hs'
  cases hinner : bodyFrom (pattern.length + 5) (insideEdges pattern) with
  | error c =>
    rw [hinner] at hs'
    cases hs'
  | ok x =>
    obtain ⟨inner, t'⟩ := x
    -- the group is closed, so its body does not go to the end
    have hopen : t'.rest ≠ [] := by
      intro hnil
      rw [hinner] at hs'
      simp [Except.bind, hnil] at hs'
    have hst : Extends closer { rest := pattern } (insideEdges pattern) := extends_start (Or.inr rfl) rfl rfl rfl
    have htracks : Tracks closer pattern.length (Used 3) Tree.Same (bodyFrom (pattern.length + 1))
        (bodyFrom (pattern.length + 5)) { rest := pattern } (insideEdges pattern) :=
      tracks_bodyFrom hst (Nat.lt_succ_self _) (Nat.le_succ _)
    obtain ⟨t, s, hread⟩ := htracks.back inner t' hinner fun hused => hopen (hused.2 (Nat.le_refl 3))
    cases hs : s.rest with
    | nil => exact ⟨t, ofText_eq_ok_iff.mpr ⟨s, hread, hs⟩⟩
    | cons c r =>
      have hunopened : Tree.ofText pattern =
          .error { fault := .groupUnopened, span := ⟨s.mark, s.advance.mark⟩ } := by
        rw [ofText_eq, hread]
        simp [Except.bind, hs]
      unfold overcloses at hcloses
      rw [hunopened] at hcloses
      cases hcloses

end LineShell.Pattern
