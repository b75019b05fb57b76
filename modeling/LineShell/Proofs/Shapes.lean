import LineShell.Pattern.Meaning
import LineShell.Pattern.Nesting

/-!
Patterns without their spans. Spans serve complaints only: two patterns that differ in nothing else are
too deep both or neither, and have the same meaning or none.

  - `Tree.bare`: a pattern in which every span is the same one.
  - `Alike`: two results with the same value, or two complaints.
  - `alike_checkDepth`, `alike_tree`: depth and meaning do not look at spans.
-/

namespace LineShell.Pattern

/-! ## Patterns without spans -/

def Span.nowhere : Span := Span.point {}

def Literal.bare (l : Literal) : Literal := { l with span := .nowhere }

mutual

def Members.bare : Members → Members
  | .none _ => .none .nowhere
  | .literal l => .literal l.bare
  | .range _ first last => .range .nowhere first.bare last.bare
  | .posix _ kind negated => .posix .nowhere kind negated
  | .escape _ kind negated => .escape .nowhere kind negated
  | .brackets _ negated members => .brackets .nowhere negated members.bare
  | .union _ items => .union .nowhere (Members.bares items)
  | .op _ kind left right => .op .nowhere kind left.bare right.bare

def Members.bares : List Members → List Members
  | [] => []
  | m :: ms => m.bare :: Members.bares ms

end

mutual

def Tree.bare : Tree → Tree
  | .empty _ => .empty .nowhere
  | .flags _ switches => .flags .nowhere switches
  | .literal l => .literal l.bare
  | .dot _ => .dot .nowhere
  | .anchor _ kind => .anchor .nowhere kind
  | .escape _ kind negated => .escape .nowhere kind negated
  | .brackets _ negated members => .brackets .nowhere negated members.bare
  | .repetition _ least most body => .repetition .nowhere least most body.bare
  | .group _ captures switches body => .group .nowhere captures switches body.bare
  | .sequence _ items => .sequence .nowhere (Tree.bares items)
  | .choice _ branches => .choice .nowhere (Tree.bares branches)

def Tree.bares : List Tree → List Tree
  | [] => []
  | t :: ts => t.bare :: Tree.bares ts

end

theorem Members.bares_eq_map (ms : List Members) : Members.bares ms = ms.map Members.bare := by
  induction ms with
  | nil => rfl
  | cons m ms ih => rw [Members.bares, ih, List.map_cons]

theorem Tree.bares_eq_map (ts : List Tree) : Tree.bares ts = ts.map Tree.bare := by
  induction ts with
  | nil => rfl
  | cons t ts ih => rw [Tree.bares, ih, List.map_cons]

theorem Members.bares_reverse (ms : List Members) : Members.bares ms.reverse = (Members.bares ms).reverse := by
  simp only [Members.bares_eq_map, List.map_reverse]

theorem Tree.bares_reverse (ts : List Tree) : Tree.bares ts.reverse = (Tree.bares ts).reverse := by
  simp only [Tree.bares_eq_map, List.map_reverse]

/-- The same pattern but for spans. -/
def Tree.Same (t u : Tree) : Prop := t.bare = u.bare

def Members.Same (m k : Members) : Prop := m.bare = k.bare

/-! ## Results that differ in complaints only -/

/-- The same value, or two complaints. -/
def Alike {α : Type} (x y : Except Complaint α) : Prop := x.toOption = y.toOption

namespace Alike

variable {α β : Type} {x y : Except Complaint α} {g k : α → Except Complaint β}

theorem refl (x : Except Complaint α) : Alike x x := rfl

theorem bind (h : Alike x y) (hcont : ∀ a, Alike (g a) (k a)) : Alike (x >>= g) (y >>= k) := by
  cases x with
  | error => cases y with
    | error => rfl
    | ok => cases h
  | ok a => cases y with
    | error => cases h
    | ok b =>
      cases h
      exact hcont a

theorem ite {b : Bool} {x' y' : Except Complaint α} (hx : Alike x x') (hy : Alike y y') :
    Alike (if b then x else y) (if b then x' else y') := by
  cases b
  · exact hy
  · exact hx

theorem ok_iff (h : Alike x y) (a : α) : x = .ok a ↔ y = .ok a := by
  cases x <;> cases y <;> simp_all [Alike, Except.toOption]

end Alike

/-! ## Depth -/

theorem alike_deeper (depth : Nat) (s t : Span) : Alike (deeper depth s) (deeper depth t) := by
  unfold deeper
  split <;> rfl

mutual

theorem alike_membersDepth (depth : Nat) : (m : Members) → Alike (m.bare.checkDepth depth) (m.checkDepth depth)
  | .none _ | .literal _ | .range .. | .posix .. | .escape .. => Alike.refl _
  | .brackets .. => (alike_deeper ..).bind fun d => alike_membersDepth d _
  | .union _ items => (alike_deeper ..).bind fun d => alike_membersDepths d items
  | .op _ _ left right =>
    (alike_deeper ..).bind fun d => (alike_membersDepth d left).bind fun _ => alike_membersDepth d right

theorem alike_membersDepths (depth : Nat) :
    (ms : List Members) → Alike (Members.checkDepths depth (Members.bares ms)) (Members.checkDepths depth ms)
  | [] => rfl
  | m :: ms => (alike_membersDepth depth m).bind fun _ => alike_membersDepths depth ms

end

mutual

theorem alike_checkDepth (depth : Nat) : (t : Tree) → Alike (t.bare.checkDepth depth) (t.checkDepth depth)
  | .empty _ | .flags .. | .literal _ | .dot _ | .anchor .. | .escape .. => Alike.refl _
  | .brackets .. => (alike_deeper ..).bind fun d => alike_membersDepth d _
  | .repetition .. | .group .. => (alike_deeper ..).bind fun d => alike_checkDepth d _
  | .sequence _ items | .choice _ items => (alike_deeper ..).bind fun d => alike_checkDepths d items

theorem alike_checkDepths (depth : Nat) :
    (ts : List Tree) → Alike (Tree.checkDepths depth (Tree.bares ts)) (Tree.checkDepths depth ts)
  | [] => rfl
  | t :: ts => (alike_checkDepth depth t).bind fun _ => alike_checkDepths depth ts

end

/-! ## Meaning -/

namespace Meaning

variable (f : Flags)

theorem alike_charOf (l : Literal) : Alike (charOf f l.bare) (charOf f l) := Alike.ite rfl (Alike.refl _)

theorem alike_memberOf (l : Literal) : Alike (memberOf f l.bare) (memberOf f l) :=
  (alike_charOf f l).bind fun _ => Alike.ite rfl (Alike.refl _)

theorem alike_negate (s t : Span) (negated : Bool) (set : CharSet) :
    Alike (negate f s negated set) (negate f t negated set) :=
  Alike.ite (Alike.refl _) (Alike.ite (Alike.refl _) rfl)

theorem alike_property (s t : Span) (query : Query) : Alike (property s query) (property t query) := by
  unfold property
  dsimp only
  split <;> rfl

theorem alike_classEscape (s t : Span) (negated : Bool) (kind : ClassEscape) :
    Alike (classEscape f s negated kind) (classEscape f t negated kind) := by
  cases kind with
  | shorthand kind => exact alike_negate f s t negated _
  | property query =>
    simp only [classEscape]
    split
    · rfl
    · exact (alike_property s t query).bind fun set => alike_negate f s t negated _

mutual

theorem alike_members : (m : Members) → Alike (members f m.bare) (members f m)
  | .none _ => rfl
  | .literal l => (alike_memberOf f l).bind fun _ => Alike.refl _
  | .range _ first last =>
    (alike_memberOf f first).bind fun _ => (alike_memberOf f last).bind fun _ => Alike.refl _
  | .posix .. => alike_negate f ..
  | .escape .. => alike_classEscape f ..
  | .brackets _ _ body => (alike_members body).bind fun _ => alike_negate f ..
  | .union _ items => alike_memberList items
  | .op _ _ left right => (alike_members left).bind fun _ => (alike_members right).bind fun _ => Alike.refl _

theorem alike_memberList : (ms : List Members) → Alike (memberList f (Members.bares ms)) (memberList f ms)
  | [] => rfl
  | m :: ms => (alike_members m).bind fun _ => (alike_memberList ms).bind fun _ => Alike.refl _

end

theorem alike_dot (s t : Span) : Alike (dot f s) (dot f t) := Alike.ite rfl (Alike.refl _)

mutual

theorem alike_tree (f : Flags) : (t : Tree) → Alike (tree f t.bare) (tree f t)
  | .empty _ | .flags .. | .anchor .. => rfl
  | .literal l =>
    ((alike_charOf f l).bind fun _ => Alike.refl _).bind fun _ => Alike.refl _
  | .dot _ => (alike_dot f ..).bind fun _ => Alike.refl _
  | .escape .. => (alike_classEscape f ..).bind fun _ => Alike.refl _
  | .brackets _ _ body =>
    (alike_members f body).bind fun _ => (alike_negate f ..).bind fun _ => Alike.refl _
  | .repetition _ _ _ body => (alike_tree f body).bind fun _ => Alike.refl _
  | .group _ _ switches body => (alike_tree (f.setAll switches) body).bind fun _ => Alike.refl _
  | .sequence _ items | .choice _ items => (alike_trees f items).bind fun _ => Alike.refl _

theorem alike_trees (f : Flags) : (ts : List Tree) → Alike (trees f (Tree.bares ts)) (trees f ts)
  | [] => rfl
  | t :: ts => (alike_tree f t).bind fun (_, f) => (alike_trees f ts).bind fun _ => Alike.refl _

end

end Meaning

/-! ## Patterns that are the same but for spans -/

theorem Tree.Same.alike_checkDepth {t u : Tree} (h : t.Same u) (depth : Nat) :
    Alike (t.checkDepth depth) (u.checkDepth depth) := by
  have ht := Pattern.alike_checkDepth depth t
  rw [h] at ht
  exact ht.symm.trans (Pattern.alike_checkDepth depth u)

theorem Tree.Same.alike_tree {t u : Tree} (h : t.Same u) (f : Flags) :
    Alike (Meaning.tree f t) (Meaning.tree f u) := by
  have ht := Meaning.alike_tree f t
  rw [h] at ht
  exact ht.symm.trans (Meaning.alike_tree f u)

end LineShell.Pattern
