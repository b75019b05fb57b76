import LineShell.Pattern.Brackets
import LineShell.Proofs.Tracking.Escape

/-!
Bracketed classes before a tail. Without its closing bracket a class is refused, and the tail has none, so a
class does not reach into the tail; a named class does not, either, since the tail has no colon. The parts of
a class that is not closed may be read up to the tail or in it, and then the class is refused.
-/

namespace LineShell.Pattern

open Reader ReadState

/-! ## Members without spans -/

theorem Tree.Same.literal {l : Literal} {t : Tree} (h : (Tree.literal l).Same t) :
    ∃ l', t = .literal l' ∧ l.bare = l'.bare := by
  cases t with
  | literal l' => exact ⟨l', rfl, Tree.literal.inj h⟩
  | _ => cases h

theorem Tree.Same.escape {span : Span} {kind : ClassEscape} {negated : Bool} {t : Tree}
    (h : (Tree.escape span kind negated).Same t) : ∃ span', t = .escape span' kind negated := by
  cases t with
  | escape =>
    cases h
    exact ⟨_, rfl⟩
  | _ => cases h

namespace Brackets

def Operand.Same (o o' : Operand) : Prop := Members.bares o.items = Members.bares o'.items

def Pending.Same (p p' : Pending) : Prop :=
  p.map (fun (op, left) => (op, left.bare)) = p'.map fun (op, left) => (op, left.bare)

theorem Operand.Same.push {o o' : Operand} {m m' : Members} (h : o.Same o') (hm : m.Same m') :
    (o.push m).Same (o'.push m') := by
  show m.bare :: Members.bares o.items = m'.bare :: Members.bares o'.items
  rw [hm, h]

theorem Operand.Same.isEmpty_eq {o o' : Operand} (h : o.Same o') : o.items.isEmpty = o'.items.isEmpty := by
  have hlength := congrArg List.length h
  simp only [Members.bares_eq_map, List.length_map] at hlength
  cases hitems : o.items <;> cases hitems' : o'.items <;> simp_all

theorem bare_close (o : Operand) : o.close.bare = Operand.close ⟨.nowhere, Members.bares o.items⟩ := by
  obtain ⟨span, items⟩ := o
  match items with
  | [] => rfl
  | [_] => rfl
  | m :: k :: items =>
    show Members.union _ (Members.bares (m :: k :: items).reverse) = _
    rw [Members.bares_reverse]
    rfl

theorem Operand.Same.close {o o' : Operand} (h : o.Same o') : o.close.Same o'.close := by
  show o.close.bare = o'.close.bare
  rw [bare_close, bare_close, h]

theorem Pending.Same.join {p p' : Pending} {m m' : Members} (h : Pending.Same p p') (hm : m.Same m') :
    (join p m).Same (join p' m') := by
  cases p with
  | none => cases p' with
    | none => exact hm
    | some _ => cases h
  | some left => cases p' with
    | none => cases h
    | some left' =>
      obtain ⟨hop, hleft⟩ := Prod.mk.inj (Option.some.inj h)
      show Members.op _ left.1 left.2.bare m.bare = Members.op _ left'.1 left'.2.bare m'.bare
      rw [hop, hleft, hm]

/-! ## Openings -/

def Opening.Same (o o' : Opening) : Prop := o.negated = o'.negated ∧ o.operand.Same o'.operand

/-- The part of an opening after the hyphens. -/
def settled (start : Mark) (negated : Bool) (first : Operand) : Reader Opening := do
  let mut operand := first
  if operand.items.isEmpty && (← char?) == some ']' then
    operand := operand.push (.literal { span := ← charSpan, char := ']' })
    step
    if ← atEnd then failFrom .classUnclosed start
  return ⟨⟨start, ← here⟩, negated, operand⟩

def opened (start : Mark) (negated : Bool) : Reader Opening := do
  settled start negated (← hyphens start (← get).rest.length ⟨Span.point (← here), []⟩)

theorem opening_eq :
    opening = (do
      let start ← here
      step
      if ← atEnd then failFrom .classUnclosed start
      let negated := (← char?) == some '^'
      if negated then
        step
        if ← atEnd then failFrom .classUnclosed start
      opened start negated) := rfl

def ranged (first last : Tree) : Reader Members := do
  let span : Span := ⟨first.span.start, last.span.stop⟩
  let first ← bound first
  let last ← bound last
  if last.char < first.char then fail .classRangeOrder span
  return .range span first last

theorem range_eq (unclosed : Span) :
    range unclosed = (do
      let first ← part
      skip
      match ← char? with
      | none => fail .classUnclosed unclosed
      | some c =>
        let next := (← get).second
        if c ≠ '-' ∨ next = some ']' ∨ next = some '-' then item first
        else
          step
          if ← atEnd then fail .classUnclosed unclosed
          ranged first (← part)) := rfl

/-! ## Named classes -/

/-- The end of a name is found before a tail exactly if it is found without, and then at the same place. -/
theorem takeWhile_append {tail : Text} (h : Closing tail) (text : Text) :
    ":]".toList.isPrefixOf ((text ++ tail).drop ((text ++ tail).takeWhile (· ≠ ':')).length) =
        ":]".toList.isPrefixOf (text.drop (text.takeWhile (· ≠ ':')).length) ∧
      (":]".toList.isPrefixOf (text.drop (text.takeWhile (· ≠ ':')).length) = true →
        (text ++ tail).takeWhile (· ≠ ':') = text.takeWhile (· ≠ ':')) := by
  induction text with
  | nil =>
    have hall : tail.takeWhile (· ≠ ':') = tail := by
      have happend : (tail ++ []).takeWhile (· ≠ ':') = tail ++ [].takeWhile (· ≠ ':') :=
        List.takeWhile_append_of_pos fun c hc => decide_eq_true fun heq => h.notMem (by decide) (heq ▸ hc)
      rwa [List.append_nil, List.takeWhile_nil, List.append_nil] at happend
    rw [List.nil_append, hall, List.drop_length]
    exact ⟨rfl, fun hprefix => nomatch hprefix⟩
  | cons c text ih =>
    by_cases hc : c = ':'
    · subst hc
      exact ⟨h.isPrefixOf_append (by decide) (':' :: text), fun _ => rfl⟩
    · have hkeep : decide (c ≠ ':') = true := decide_eq_true hc
      simp only [List.cons_append, List.takeWhile_cons, hkeep, if_true, List.length_cons, List.drop_succ_cons,
        List.cons.injEq, true_and]
      exact ih

/-- A named class is found before a tail exactly if it is found without. -/
theorem namedClass?_append {tail : Text} (h : Closing tail) (text : Text) :
    namedClass? (text ++ tail) = namedClass? text := by
  match text with
  | [] =>
    cases htail : tail with
    | nil => rfl
    | cons c more =>
      obtain rfl := h.closes c (by rw [htail]; rfl)
      rfl
  | [c] =>
    cases htail : tail with
    | nil => rfl
    | cons d more =>
      obtain rfl := h.closes d (by rw [htail]; rfl)
      by_cases hc : c = '['
      · subst hc
        rfl
      · simp [namedClass?, hc]
  | c :: d :: r =>
    by_cases hc : c = '[' ∧ d = ':'
    · obtain ⟨rfl, rfl⟩ := hc
      have hhead : ((r ++ tail).head? == some '^') = (r.head? == some '^') := by
        cases r with
        | cons => rfl
        | nil =>
          cases htail : tail with
          | nil => rfl
          | cons c more =>
            obtain rfl := h.closes c (by rw [htail]; rfl)
            rfl
      obtain ⟨rest, hrest⟩ : ∃ rest, rest = if (r.head? == some '^') = true then r.tail else r := ⟨_, rfl⟩
      have happend : (if (r.head? == some '^') = true then (r ++ tail).tail else r ++ tail) = rest ++ tail := by
        rw [hrest]
        cases r with
        | nil => rfl
        | cons e r => split <;> rfl
      obtain ⟨hend, hsame⟩ := takeWhile_append h rest
      simp only [List.cons_append, namedClass?, hhead, happend, ← hrest, hend]
      by_cases hprefix : ":]".toList.isPrefixOf (rest.drop (rest.takeWhile (· ≠ ':')).length) = true
      · simp only [if_pos hprefix, hsame hprefix]
      · simp only [if_neg hprefix]
    · have hnone : ∀ r, namedClass? (c :: d :: r) = none := by
        intro r
        unfold namedClass?
        split
        · simp_all
        · rfl
      rw [List.cons_append, List.cons_append, hnone, hnone]

theorem length_namedClass? {text : Text} {kind : Posix} {negated : Bool} {length : Nat}
    (h : namedClass? text = some (kind, negated, length)) : 0 < length ∧ length ≤ text.length := by
  unfold namedClass? at h
  split at h
  · rename_i r
    have hfound : ∀ (rest : Text) (extra : Nat), 4 ≤ extra → rest.length + extra = r.length + 4 →
        (if ":]".toList.isPrefixOf (rest.drop (rest.takeWhile (· ≠ ':')).length) then
          (posix? (rest.takeWhile (· ≠ ':'))).map fun kind =>
            (kind, r.head? == some '^', (rest.takeWhile (· ≠ ':')).length + extra)
        else none) = some (kind, negated, length) → 0 < length ∧ length ≤ ('[' :: ':' :: r).length := by
      intro rest extra hfour hextra h
      split at h
      · rename_i hprefix
        obtain ⟨k, -, hk⟩ := Option.map_eq_some_iff.mp h
        have hclose := (List.isPrefixOf_iff_prefix.mp hprefix).length_le
        have htwo : ":]".toList.length = 2 := rfl
        rw [List.length_drop, htwo] at hclose
        obtain rfl := (Prod.mk.inj (Prod.mk.inj hk).2).2
        simp only [List.length_cons]
        omega
      · cases h
    by_cases hneg : (r.head? == some '^') = true
    · simp only [if_pos hneg] at h
      refine hfound r.tail 5 (by decide) ?_ h
      cases r with
      | nil => cases hneg
      | cons c r => simp only [List.tail_cons, List.length_cons]
    · simp only [if_neg hneg] at h
      exact hfound r 4 (by decide) rfl h
  · cases h

end Brackets

/-! ## Classes at the closer -/

theorem skip_closer {t : ReadState} (ht : t.rest = closer) : t.skip = t := by
  obtain ⟨rest, mark, verbose, names⟩ := t
  subst ht
  cases verbose <;> rfl

theorem behind_cases {r : Text} (h : r <:+ closer) : r = closer ∨ r = ['\\', 'b'] ∨ r = ['b'] ∨ r = [] := by
  simpa [closer, List.suffix_cons_iff] using h

namespace Ends

variable {t : ReadState}

theorem members (o : Brackets.Opening) (n : Nat) (operand : Brackets.Operand) (p : Brackets.Pending)
    (ht : t.rest <:+ closer) : Ends Never (Brackets.members o n operand p) t := by
  obtain ⟨rest, mark, verbose, names⟩ := t
  -- each of the three characters takes one unit of the fuel
  rcases n with _ | _ | _ | _ | n
  · exact of_fails (Fails.fail _ _)
  all_goals
    rcases behind_cases ht with rfl | rfl | rfl | rfl <;> cases verbose <;> exact of_error rfl

theorem head_of_behind (ht : t.rest <:+ closer) {c : Char} (hc : c ∉ closer) : t.rest.head? ≠ some c :=
  fun heq => hc (ht.mem (List.mem_of_mem_head? heq))

theorem hyphens (start : Mark) (n : Nat) (o : Brackets.Operand) (ht : t.rest <:+ closer) :
    Brackets.hyphens start n o t = .ok (o, t) := by
  cases n with
  | zero => rfl
  | succ n =>
    have hother : (t.rest.head? != some '-') = true := bne_iff_ne.mpr (head_of_behind ht (by decide))
    show (if (t.rest.head? != some '-') = true then _ else _ : Reader Brackets.Operand) t = _
    rw [if_pos hother]
    rfl

theorem settled (start : Mark) (negated : Bool) (operand : Brackets.Operand) (ht : t.rest <:+ closer) :
    Ends Behind (Brackets.settled start negated operand) t := by
  refine char (ite (fun hbracket => ?_) fun _ => here fun _ => pure ht)
  exact absurd (beq_iff_eq.mp (Bool.and_eq_true_iff.mp hbracket).2) (head_of_behind ht (by decide))

/-- An opening needs nothing of the closer. -/
theorem opened (start : Mark) (negated : Bool) (ht : t.rest <:+ closer) :
    Ends Behind (Brackets.opened start negated) t := by
  refine get (here fun m => ?_)
  have hhyphens : Ends Behind (Brackets.hyphens start t.rest.length ⟨Span.point m, []⟩) t :=
    of_ok (hyphens start _ _ ht) ht
  exact hhyphens.bind fun operand u hu => settled start negated operand hu

theorem item (tree : Tree) : Ends (fun _ u => u = t) (Brackets.item tree) t := by
  cases tree with
  | literal => exact pure rfl
  | escape => exact pure rfl
  | _ => exact of_fails (Fails.fail _ _)

theorem bound (tree : Tree) : Ends (fun _ u => u = t) (Brackets.bound tree) t := by
  cases tree with
  | literal => exact pure rfl
  | _ => exact of_fails (Fails.fail _ _)

theorem ranged (first last : Tree) (ht : t.rest <:+ closer) : Ends Behind (Brackets.ranged first last) t := by
  refine (bound first).bind ?_
  rintro low _ rfl
  refine (bound last).bind ?_
  rintro high _ rfl
  exact guarded ((Fails.fail _ _).bind _) (pure ht)

theorem part (ht : t.rest = closer) : Ends Behind Brackets.part t := by
  obtain ⟨rest, mark, verbose, names⟩ := t
  subst ht
  exact of_ok rfl (List.suffix_cons _ _)

end Ends

namespace Tracks

variable {γ δ : Type} {tail : Text} {n : Nat} {s t : ReadState} {L : δ → ReadState → Prop} {R : γ → δ → Prop}

theorem namedClass {F : Option Members → Reader γ} {G : Option Members → Reader δ} (h : Extends tail s t)
    (hnone : Tracks tail n L R (F none) (G none) s t)
    (hsome : ∀ m m' s' t', Members.Same m m' → Extends tail s' t' → s'.rest.length < s.rest.length →
      Tracks tail n L R (F (some m)) (G (some m')) s' t') :
    Tracks tail n L R (Brackets.namedClass >>= F) (Brackets.namedClass >>= G) s t := by
  unfold Brackets.namedClass
  simp only [bind_assoc]
  refine here fun start start' => get ?_
  have hsame : Brackets.namedClass? t.rest = Brackets.namedClass? s.rest := by
    rcases h.rest with hrest | ⟨hs, ht⟩
    · rw [hrest, Brackets.namedClass?_append h.closing]
    · rw [hs, ht]
  rw [hsame]
  cases hclass : Brackets.namedClass? s.rest with
  | none =>
    simp only [pure_bind]
    exact hnone
  | some found =>
    obtain ⟨kind, negated, length⟩ := found
    obtain ⟨hpos, hlength⟩ := Brackets.length_namedClass? hclass
    have hl : (List.replicate length ()).length ≤ s.rest.length := by rwa [List.length_replicate]
    simp only [bind_assoc, pure_bind]
    refine update (here fun _ _ => hsome _ _ _ _ rfl (h.advances hl) ?_)
    rw [rest_advances, List.length_drop, List.length_replicate]
    omega

/-! ## Items -/

/-- A part of a class that is not finished, or a place, which is refused in a class. -/
def Loose (tree : Tree) (t : ReadState) : Prop := Behind tree t ∨ ∃ span kind, tree = .anchor span kind

theorem part (h : Extends tail s t) {c : Char} {r : Text} (hs : s.rest = c :: r) :
    Tracks tail r.length Loose Tree.Same Brackets.part Brackets.part s t := by
  unfold Brackets.part
  refine char_of_cons h hs ?_
  by_cases hc : some c = some '\\'
  · simp only [if_pos hc]
    refine (escape h hs).weaken (Nat.le_refl _) ?_
    rintro tree t' (ht' | ⟨hanchor, -⟩)
    · exact Or.inl (ht'.trans (List.suffix_cons _ _))
    · exact Or.inr hanchor
  · simp only [if_neg hc]
    refine charSpan fun _ _ => char_of_cons h hs (bump h hs fun s' t' h' hs' => ?_)
    exact pure h' rfl (Nat.le_of_eq (congrArg List.length hs'))

theorem item (h : Extends tail s t) {a b : Tree} (hab : a.Same b) :
    Tracks tail s.rest.length Never Members.Same (Brackets.item a) (Brackets.item b) s t := by
  cases a with
  | literal l =>
    obtain ⟨l', rfl, hl⟩ := hab.literal
    exact pure h (congrArg Members.literal hl) (Nat.le_refl _)
  | escape span kind negated =>
    obtain ⟨span', rfl⟩ := hab.escape
    exact pure h rfl (Nat.le_refl _)
  | _ =>
    cases b <;> first | exact of_fails (Fails.fail _ _) (Fails.fail _ _) | cases hab

theorem bound (h : Extends tail s t) {a b : Tree} (hab : a.Same b) :
    Tracks tail s.rest.length Never (fun l l' : Literal => l.bare = l'.bare) (Brackets.bound a) (Brackets.bound b)
      s t := by
  cases a with
  | literal l =>
    obtain ⟨l', rfl, hl⟩ := hab.literal
    exact pure h hl (Nat.le_refl _)
  | _ =>
    cases b <;> first | exact of_fails (Fails.fail _ _) (Fails.fail _ _) | cases hab

/-- The first character of the tail counts, if none before it does. -/
theorem visible_append (h : Closing tail) (comment : Bool) (text : Text) :
    visible comment (text ++ tail) = (visible comment text).or tail.head? := by
  induction text generalizing comment with
  | nil =>
    cases htail : tail with
    | nil => rfl
    | cons c more =>
      obtain rfl := h.closes c (by rw [htail]; rfl)
      cases comment <;> rfl
  | cons c text ih =>
    simp only [List.cons_append, visible]
    split
    · exact ih comment
    · split
      · exact ih true
      · rfl

/-- The next character that counts is the same one, but for the first one of the tail. -/
theorem second_eq (h : Extends tail s t) {c : Char} {r : Text} (hs : s.rest = c :: r) {d : Char}
    (hparen : d ≠ ')') (hblank : Text.isBlank d = false) (hsign : d ≠ '#') :
    t.second = some d ↔ s.second = some d := by
  have htail : tail.head? ≠ some d := fun heq => hparen (h.closing.closes d heq)
  have hhead : (r ++ tail).head? = some d ↔ r.head? = some d := by
    cases r with
    | nil => simp [htail]
    | cons => rfl
  unfold second
  rw [h.verbose, h.rest_of_cons hs, hs, List.tail_cons, List.tail_cons]
  by_cases hverbose : s.verbose = true
  · simp only [hverbose, if_true, visible_append h.closing]
    cases hvisible : visible false r with
    | some e => rfl
    | none =>
      -- then no character of the part counts, and its first one is not `d`
      have hfirst : r.head? ≠ some d := by
        cases r with
        | nil => simp
        | cons e r =>
          rintro heq
          cases heq
          simp [visible, hblank, hsign] at hvisible
      cases hclose : tail.head? with
      | none => simp only [Option.none_or, hhead]
      | some e => simp [hfirst, hclose ▸ htail]
  · simp only [hverbose]
    exact hhead

theorem ranged (h : Extends tail s t) {a a' b b' : Tree} (ha : a.Same a') (hb : b.Same b') :
    Tracks tail s.rest.length Never Members.Same (Brackets.ranged a b) (Brackets.ranged a' b') s t := by
  unfold Brackets.ranged
  refine (bound h ha).bind fun low low' s₁ t₁ hlow h₁ hlength₁ => ?_
  refine (bound h₁ hb).bind fun high high' s₂ t₂ hhigh h₂ hlength₂ => ?_
  have hlowChar : low.bare.char = low'.bare.char := congrArg Literal.char hlow
  have hhighChar : high.bare.char = high'.bare.char := congrArg Literal.char hhigh
  have horder : high.char < low.char ↔ high'.char < low'.char :=
    Iff.of_eq (congr (congrArg LT.lt hhighChar) hlowChar)
  refine guarded horder ((Fails.fail _ _).bind _) ((Fails.fail _ _).bind _) fun _ => pure h₂ ?_ (by omega)
  show Members.range _ low.bare high.bare = Members.range _ low'.bare high'.bare
  rw [hlow, hhigh]

/-- An item or a range. Where its first part is not finished, no range follows. -/
theorem range (h : Extends tail s t) {c : Char} {r : Text} (hs : s.rest = c :: r) (unclosed unclosed' : Span) :
    Tracks tail r.length Behind Members.Same (Brackets.range unclosed) (Brackets.range unclosed') s t := by
  rw [Brackets.range_eq, Brackets.range_eq]
  refine (part h hs).bind_or (fun first first' s' t' hfirst h' hlength => ?_) ?_
  · refine skip h' fun s' t' h' hlength' => ?_
    refine char_or_fail h' (Fails.fail _ _) (Fails.fail _ _) (fun ht' => ?_) fun d r' hs' => get ?_
    · -- the tail does not go on with a hyphen
      refine Ends.get (Ends.ite (fun _ => ?_) fun hother => absurd (Or.inl (by decide)) hother)
      intro m u hm
      rw [Behind, Ends.item first' m u hm]
      exact suffix_of_eq ht'
    have hcons := length_of_cons hs'
    have hbracket := second_eq h' hs' (d := ']') (by decide) (by decide) (by decide)
    have hhyphen := second_eq h' hs' (d := '-') (by decide) (by decide) (by decide)
    refine ite (or_congr Iff.rfl (or_congr hbracket.symm hhyphen.symm)) (fun _ => ?_) fun _ => ?_
    · exact (item h' hfirst).sure (by omega)
    · refine step h' hs' fun s'' t'' h'' hlength'' => ?_
      refine unlessEnd h'' ((Fails.fail _ _).bind _) ((Fails.fail _ _).bind _) (fun ht'' => ?_) fun e r'' hs'' => ?_
      · exact (Ends.part ht'').bind fun last u hu => Ends.ranged first' last hu
      have hcons' := length_of_cons hs''
      refine (part h'' hs'').bind_or (fun last last' s₃ t₃ hlast h₃ hlength₃ => ?_) ?_
      · exact (ranged h₃ hfirst hlast).sure (by omega)
      · rintro last u (hu | ⟨span, kind, rfl⟩)
        · exact Ends.ranged first' last hu
        · exact Ends.of_fails (Fails.bind_right _ fun _ => (Fails.fail _ _).bind _)
  · rintro first u (hu | ⟨span, kind, rfl⟩)
    · refine Ends.skip (Ends.char ?_)
      have hskip : u.skip.rest <:+ closer := u.skip_suffix.trans hu
      cases hhead : u.skip.rest.head? with
      | none => exact Ends.of_fails (Fails.fail _ _)
      | some c =>
        have hhyphen : c ≠ '-' := fun heq => Ends.head_of_behind hskip (by decide) (heq ▸ hhead)
        refine Ends.get (Ends.ite (fun _ => ?_) fun hother => absurd (Or.inl hhyphen) hother)
        intro m v hv
        rw [Behind, Ends.item first m v hv]
        exact hskip
    · -- a place is neither an item nor an end of a range
      refine Ends.skip (Ends.char ?_)
      cases u.skip.rest.head? with
      | none => exact Ends.of_fails (Fails.fail _ _)
      | some c =>
        refine Ends.of_fails (Fails.bind_right _ fun _ => Fails.ite (Fails.fail _ _) ?_)
        refine Fails.bind_right _ fun _ => Fails.bind_right _ fun _ => Fails.ite ((Fails.fail _ _).bind _) ?_
        exact Fails.bind_right _ fun _ => (Fails.fail _ _).bind _

/-! ## Brackets -/

theorem hyphens_end (h : Extends tail s t) (hs : s.rest = []) (start start' : Mark) (k l : Nat)
    {o o' : Brackets.Operand} (ho : o.Same o') :
    Tracks tail n Behind Brackets.Operand.Same (Brackets.hyphens start k o) (Brackets.hyphens start' l o') s t := by
  have hbehind : s.rest <:+ closer := hs ▸ List.nil_suffix
  have hstop := Ends.hyphens start k o hbehind
  have hstop' := Ends.hyphens start' l o' (h.suffix_of_nil hs)
  exact of_ok hstop hstop' h ho (hs ▸ Nat.zero_le n)

theorem hyphens (h : Extends tail s t) (start start' : Mark) {k l : Nat} (hk : s.rest.length ≤ k) (hkl : k ≤ l)
    {o o' : Brackets.Operand} (ho : o.Same o') :
    Tracks tail s.rest.length Behind Brackets.Operand.Same (Brackets.hyphens start k o)
      (Brackets.hyphens start' l o') s t := by
  induction k generalizing s t l o o' with
  | zero => exact hyphens_end h (List.length_eq_zero_iff.mp (Nat.le_zero.mp hk)) start start' 0 l ho
  | succ k ih =>
    obtain ⟨l, rfl⟩ : ∃ l', l = l' + 1 := ⟨l - 1, by omega⟩
    cases hs : s.rest with
    | nil => exact hyphens_end h hs start start' (k + 1) (l + 1) ho
    | cons c r =>
      have hcons := length_of_cons hs
      rw [← hs]
      unfold Brackets.hyphens
      refine char_of_cons h hs (ite Iff.rfl (fun _ => pure h ho (Nat.le_refl _)) fun _ => ?_)
      refine charSpan fun _ _ => step h hs fun s' t' h' hlength => ?_
      refine unlessEnd h' ((Fails.fail _ _).bind _) ((Fails.fail _ _).bind _) (fun ht' => ?_) fun _ _ _ => ?_
      · exact Ends.of_ok (Ends.hyphens start' l _ (suffix_of_eq ht')) (suffix_of_eq ht')
      · refine (ih h' (by omega) (by omega) (ho.push ?_)).mono (by omega)
        rfl

theorem settled (h : Extends tail s t) (start start' : Mark) (negated : Bool) {o o' : Brackets.Operand}
    (ho : o.Same o') :
    Tracks tail s.rest.length Behind Brackets.Opening.Same (Brackets.settled start negated o)
      (Brackets.settled start' negated o') s t := by
  have hother : ∀ {items : Bool} {e : Option Char}, e ≠ some ']' → ¬ (items && e == some ']') = true := by
    intro items e he
    simp [he]
  unfold Brackets.settled
  dsimp only
  rw [ho.isEmpty_eq]
  refine char h (fun c r hs => ?_) (fun _ _ => ?_) fun _ _ => ?_
  · refine ite Iff.rfl (fun _ => charSpan fun _ _ => step h hs fun s' t' h' hlength => ?_) fun _ => ?_
    · have hcons := length_of_cons hs
      refine unlessEnd h' ((Fails.failFrom _ _).bind _) ((Fails.failFrom _ _).bind _) (fun ht' => ?_) fun _ _ _ => ?_
      · exact Ends.here fun _ => Ends.pure (suffix_of_eq ht')
      · exact here fun _ _ => pure h' ⟨rfl, ho.push rfl⟩ (by omega)
    · exact here fun _ _ => pure h ⟨rfl, ho⟩ (Nat.le_refl _)
  · rw [if_neg (hother (by decide)), if_neg (hother (by decide))]
    exact here fun _ _ => pure h ⟨rfl, ho⟩ (Nat.le_refl _)
  · rw [if_neg (hother (by decide)), if_neg (hother (by decide))]
    exact here fun _ _ => pure h ⟨rfl, ho⟩ (Nat.le_refl _)

theorem opened (h : Extends tail s t) (start start' : Mark) (negated : Bool) :
    Tracks tail s.rest.length Behind Brackets.Opening.Same (Brackets.opened start negated)
      (Brackets.opened start' negated) s t := by
  unfold Brackets.opened
  refine get (here fun _ _ => (hyphens h start start' (Nat.le_refl _) h.length_le ?_).bind_or ?_ ?_)
  · rfl
  · exact fun o o' s₁ t₁ ho h₁ hlength₁ => (settled h₁ start start' negated ho).mono hlength₁
  · exact fun o t₁ ht₁ => Ends.settled start' negated o ht₁

theorem opening (h : Extends tail s t) {c : Char} {r : Text} (hs : s.rest = c :: r) :
    Tracks tail r.length Behind Brackets.Opening.Same Brackets.opening Brackets.opening s t := by
  rw [Brackets.opening_eq]
  refine here fun start start' => step h hs fun s₁ t₁ h₁ hlength₁ => ?_
  refine unlessEnd h₁ ((Fails.failFrom _ _).bind _) ((Fails.failFrom _ _).bind _) (fun ht₁ => ?_) fun d r₁ hs₁ => ?_
  · -- the tail does not go on with the sign of a complement
    refine Ends.char (Ends.ite (fun hsign => ?_) fun _ => Ends.opened start' _ (suffix_of_eq ht₁))
    rw [ht₁] at hsign
    cases hsign
  refine char_of_cons h₁ hs₁ ?_
  have hcons := length_of_cons hs₁
  refine ite Iff.rfl (fun _ => step h₁ hs₁ fun s₂ t₂ h₂ hlength₂ => ?_) fun _ => ?_
  · refine unlessEnd h₂ ((Fails.failFrom _ _).bind _) ((Fails.failFrom _ _).bind _) (fun ht₂ => ?_) fun _ _ _ => ?_
    · exact Ends.opened start' _ (suffix_of_eq ht₂)
    · exact (opened h₂ start start' _).mono (by omega)
  · exact (opened h₁ start start' _).mono hlength₁

theorem operator {F : Option SetOp → Reader γ} {G : Option SetOp → Reader δ} (h : Extends tail s t)
    (hsome : ∀ op s' t', Extends tail s' t' → s'.rest.length < s.rest.length →
      Tracks tail n L R (F (some op)) (G (some op)) s' t')
    (hnone : Tracks tail n L R (F none) (G none) s t) :
    Tracks tail n L R (Brackets.operator >>= F) (Brackets.operator >>= G) s t := by
  have hstep : ∀ (op : SetOp) {sign : Text}, 0 < sign.length → ∀ s' t', sign.isPrefixOf s.rest = true →
      Extends tail s' t' → s'.rest = s.rest.drop sign.length →
        Tracks tail n L R (F (some op)) (G (some op)) s' t' := by
    intro op sign hpos s' t' hprefix h' hrest
    have hlength := (List.isPrefixOf_iff_prefix.mp hprefix).length_le
    refine hsome op s' t' h' ?_
    rw [hrest, List.length_drop]
    omega
  unfold Brackets.operator
  simp only [bind_assoc]
  refine accept (by decide) h (hstep .intersection (by decide)) ?_
  simp only [bind_assoc, Bool.false_eq_true, if_false]
  refine accept (by decide) h (hstep .difference (by decide)) ?_
  simp only [bind_assoc, Bool.false_eq_true, if_false]
  refine accept (by decide) h (hstep .symmetricDifference (by decide)) ?_
  exact hnone

theorem members (h : Extends tail s t) {k l : Nat} (hk : s.rest.length < k) (hkl : k ≤ l) {o o' : Brackets.Opening}
    {operand operand' : Brackets.Operand} (hoperand : operand.Same operand') {p p' : Brackets.Pending}
    (hp : Brackets.Pending.Same p p') :
    Tracks tail s.rest.length Never (fun a b => a.2.Same b.2) (Brackets.members o k operand p)
      (Brackets.members o' l operand' p') s t := by
  induction k generalizing s t l o o' operand operand' p p' with
  | zero => exact absurd hk (Nat.not_lt_zero _)
  | succ k ih =>
    obtain ⟨l, rfl⟩ : ∃ l', l = l' + 1 := ⟨l - 1, by omega⟩
    unfold Brackets.members
    refine skip h fun s₁ t₁ h₁ hlength₁ => ?_
    refine char_or_fail h₁ (Fails.fail _ _) (Fails.fail _ _) (fun ht₁ => ?_) fun c r hs₁ => ?_
    · have hclosed := Ends.members o' (l + 1) operand' p' (suffix_of_eq ht₁)
      unfold Brackets.members at hclosed
      have hchar := Ends.of_char (skip_closer ht₁ ▸ Ends.of_skip hclosed)
      rwa [ht₁] at hchar
    have hcons := length_of_cons hs₁
    split
    · contradiction
    · refine namedClass h₁ ?_ fun m m' s₂ t₂ hm h₂ hlength₂ => ?_
      · refine (opening h₁ hs₁).bind_or (fun inner inner' s₂ t₂ hinner h₂ hlength₂ => ?_) ?_
        · refine (ih h₂ (by omega) (by omega) hinner.2 rfl).bind fun a b s₃ t₃ hab h₃ hlength₃ => ?_
          refine (ih h₃ (by omega) (by omega) (hoperand.push ?_) hp).mono (by omega)
          show Members.brackets _ _ a.2.bare = Members.brackets _ _ b.2.bare
          rw [hinner.1, hab]
        · exact fun inner t₂ ht₂ => (Ends.members inner l _ _ ht₂).bind fun _ _ hnever => hnever.elim
      · exact (ih h₂ (by omega) (by omega) (hoperand.push hm) hp).mono (by omega)
    · refine bump h₁ hs₁ fun s₂ t₂ h₂ hs₂ => here fun _ _ => ?_
      exact pure h₂ (hp.join hoperand.close) (by rw [hs₂]; omega)
    · refine operator h₁ (fun op s₂ t₂ h₂ hlength₂ => here fun _ _ => ?_) ?_
      · refine (ih h₂ (by omega) (by omega) ?_ ?_).mono (by omega)
        · rfl
        · exact congrArg (fun m => some (op, m)) (hp.join hoperand.close)
      · refine (range h₁ hs₁ _ _).bind_or (fun m m' s₂ t₂ hm h₂ hlength₂ => ?_) ?_
        · exact (ih h₂ (by omega) (by omega) (hoperand.push hm) hp).mono (by omega)
        · exact fun m t₂ ht₂ => Ends.members o' l _ _ ht₂

theorem brackets (h : Extends tail s t) {c : Char} {r : Text} (hs : s.rest = c :: r) :
    Tracks tail r.length Never Tree.Same Reader.brackets Reader.brackets s t := by
  unfold Reader.brackets
  refine (opening h hs).bind_or (fun o o' s₁ t₁ ho h₁ hlength₁ => get ?_) ?_
  · refine (members h₁ (Nat.lt_succ_self _) (Nat.succ_le_succ h₁.length_le) ho.2 ?_).bind ?_
    · rfl
    intro a b s₂ t₂ hab h₂ hlength₂
    refine pure h₂ ?_ (by omega)
    show Tree.brackets _ o.negated a.2.bare = Tree.brackets _ o'.negated b.2.bare
    rw [ho.1, hab]
  · exact fun o t₁ ht₁ => Ends.get ((Ends.members o _ _ _ ht₁).bind fun _ _ hnever => hnever.elim)

end Tracks

end LineShell.Pattern
