import LineShell.Proofs.Enclosure
import LineShell.Proofs.Matches
import LineShell.Proofs.Refiltering

/-!
`grep` for whole words. The text of the pattern is put into a group between two word boundaries, so a line
is printed if the pattern matches from one boundary to another. A boundary is an edge of a word, which is
not the same as a neighbour that is no word character: where a match starts with a word character both say
the same, and elsewhere they differ.

  - `checkDepth_of_le`, `isTooLarge_betweenEdges`: with the boundaries a pattern is deeper and larger.
  - `compile_betweenEdges`: when the text with the boundaries is accepted, and as which expression.
  - `isMatch_betweenEdges`: the lines that the expression matches.
  - `apart_iff_atEdge`: when edges of words are what stands between words.
  - `whole_words`: what the command does.
-/

namespace LineShell

namespace Pattern

def Expr.betweenEdges (e : Expr) : Expr :=
  .cat (.place (.word true .edge)) (.cat (.capture e) (.place (.word true .edge)))

/-- Can the pattern stand that deep in another one? -/
def fits (depth : Nat) (pattern : Text) : Bool :=
  ((Tree.ofText pattern).bind fun t => t.checkDepth depth).isOk

/-! ## Room for the boundaries -/

section Depth

theorem deeper_of_le {d d' : Nat} {span : Span} {F : Nat → Except Complaint Unit} (h : d ≤ d')
    (hF : ∀ {a b}, a ≤ b → F b = .ok () → F a = .ok ()) (hok : (deeper d' span).bind F = .ok ()) :
    (deeper d span).bind F = .ok () := by
  unfold deeper at hok ⊢
  by_cases hlimit : d' < nestingLimit
  · rw [if_pos hlimit] at hok
    rw [if_pos (Nat.lt_of_le_of_lt h hlimit)]
    exact hF (Nat.succ_le_succ h) hok
  · rw [if_neg hlimit] at hok
    cases hok

theorem both_of_ok {x x' y y' : Except Complaint Unit} (hx : x' = .ok () → x = .ok ())
    (hy : y' = .ok () → y = .ok ()) (hok : (x'.bind fun _ => y') = .ok ()) : (x.bind fun _ => y) = .ok () := by
  cases x' with
  | error c => cases hok
  | ok =>
    rw [hx rfl]
    exact hy hok

mutual

theorem membersDepth_of_le {d d' : Nat} (h : d ≤ d') :
    (m : Members) → m.checkDepth d' = .ok () → m.checkDepth d = .ok ()
  | .none _, _ | .literal _, _ | .range .., _ | .posix .., _ | .escape .., _ => rfl
  | .brackets _ _ m, hok => deeper_of_le h (fun h => membersDepth_of_le h m) hok
  | .union _ ms, hok => deeper_of_le h (fun h => membersDepths_of_le h ms) hok
  | .op _ _ left right, hok =>
    deeper_of_le h (fun h => both_of_ok (membersDepth_of_le h left) (membersDepth_of_le h right)) hok

theorem membersDepths_of_le {d d' : Nat} (h : d ≤ d') :
    (ms : List Members) → Members.checkDepths d' ms = .ok () → Members.checkDepths d ms = .ok ()
  | [], _ => rfl
  | m :: ms, hok => both_of_ok (membersDepth_of_le h m) (membersDepths_of_le h ms) hok

end

mutual

/-- A pattern that is not too deep in another one is not too deep on its own. -/
theorem checkDepth_of_le {d d' : Nat} (h : d ≤ d') :
    (t : Tree) → t.checkDepth d' = .ok () → t.checkDepth d = .ok ()
  | .empty _, _ | .flags .., _ | .literal _, _ | .dot _, _ | .anchor .., _ | .escape .., _ => rfl
  | .brackets _ _ m, hok => deeper_of_le h (fun h => membersDepth_of_le h m) hok
  | .repetition _ _ _ t, hok | .group _ _ _ t, hok => deeper_of_le h (fun h => checkDepth_of_le h t) hok
  | .sequence _ ts, hok | .choice _ ts, hok => deeper_of_le h (fun h => checkDepths_of_le h ts) hok

theorem checkDepths_of_le {d d' : Nat} (h : d ≤ d') :
    (ts : List Tree) → Tree.checkDepths d' ts = .ok () → Tree.checkDepths d ts = .ok ()
  | [], _ => rfl
  | t :: ts, hok => both_of_ok (checkDepth_of_le h t) (checkDepths_of_le h ts) hok

end

end Depth

theorem ofExpr_betweenEdges (set : CharSet → Nat) (captures : Bool) (e : Expr) :
    Size.ofExpr set captures false e ≤ Size.ofExpr set captures false e.betweenEdges := by
  have hsize : Size.ofExpr set captures false e.betweenEdges =
      0 + (0 + Size.state + (0 + (0 + ((if captures then 2 * Size.state else 0) + Size.ofExpr set captures false e) +
        (0 + Size.state)))) := rfl
  rw [hsize]
  omega

theorem isTooLarge_betweenEdges {e : Expr} (h : Size.isTooLarge e.betweenEdges = false) :
    Size.isTooLarge e = false := by
  have hbound := ofExpr_betweenEdges Size.boundSet true e
  have hforward := ofExpr_betweenEdges (Size.ofSet false) true e
  have hbackward := ofExpr_betweenEdges (Size.ofSet true) false e
  unfold Size.isTooLarge at h ⊢
  simp only [Bool.and_eq_false_iff, Bool.or_eq_false_iff, decide_eq_false_iff_not] at h ⊢
  omega

/-! ## Acceptance -/

theorem compile_eq_ok_iff {ignoreCase : Bool} {pattern : Text} {e : Expr} :
    compile ignoreCase pattern = .ok e ↔ ∃ t f, Tree.ofText pattern = .ok t ∧ t.checkDepth 0 = .ok () ∧
      Meaning.tree { ignoreCase } t = .ok (e, f) ∧ Size.isTooLarge e = false := by
  have hexpr : expr? ignoreCase pattern = (Tree.ofText pattern).bind fun t =>
      (t.checkDepth 0).bind fun _ => (Meaning.tree { ignoreCase } t).bind fun x => .ok x.1 := rfl
  unfold compile
  rw [hexpr]
  cases Tree.ofText pattern with
  | error c => simp [Except.bind]
  | ok t =>
    cases hdepth : t.checkDepth 0 with
    | error c => simp [Except.bind, hdepth]
    | ok =>
      cases hmeaning : Meaning.tree { ignoreCase } t with
      | error c => simp [Except.bind, hdepth, hmeaning]
      | ok x =>
        obtain ⟨w, f⟩ := x
        cases hsize : Size.isTooLarge w <;> simp [Except.bind, hdepth, hmeaning, hsize]
        · rintro rfl
          exact hsize
        · rintro rfl
          exact hsize

theorem checkDepth_betweenEdges (t : Tree) : t.betweenEdges.checkDepth 0 = t.checkDepth 2 := by
  have hsteps : t.betweenEdges.checkDepth 0 = (t.checkDepth 2 >>= fun _ => .ok ()) := rfl
  rw [hsteps]
  cases t.checkDepth 2 <;> rfl

/-- The boundaries have a meaning, so the whole has one exactly if the pattern has. -/
theorem tree_betweenEdges {f f' : Flags} {t : Tree} {w : Expr} (hunicode : f.unicode = true) :
    Meaning.tree f t.betweenEdges = .ok (w, f') ↔
      ∃ e f'', Meaning.tree f t = .ok (e, f'') ∧ w = e.betweenEdges ∧ f' = f := by
  have hanchor : Meaning.tree f (.anchor .nowhere (.word .edge)) = .ok (.place (.word true .edge), f) := by
    rw [← hunicode]
    rfl
  have hgroup : Meaning.tree f (.group .nowhere true [] t) =
      (Meaning.tree f t).bind fun x => .ok (.capture x.1, f) := rfl
  have htrees : Meaning.trees f
      [.anchor .nowhere (.word .edge), .group .nowhere true [] t, .anchor .nowhere (.word .edge)] =
        (Meaning.tree f t).bind fun x =>
          .ok ([.place (.word true .edge), .capture x.1, .place (.word true .edge)], f) := by
    simp only [Meaning.trees, hanchor, hgroup, bind, Except.bind, pure, Except.pure]
    cases Meaning.tree f t with
    | error c => rfl
    | ok x => simp only [hanchor]
  have hwhole : Meaning.tree f t.betweenEdges = (Meaning.tree f t).bind fun x => .ok (x.1.betweenEdges, f) := by
    show (Meaning.trees f _ >>= fun x => .ok (Expr.sequence x.1, x.2)) = _
    rw [htrees]
    cases Meaning.tree f t <;> rfl
  rw [hwhole]
  cases Meaning.tree f t with
  | error c => simp [Except.bind]
  | ok x =>
    constructor
    · intro hx
      cases hx
      exact ⟨x.1, x.2, rfl, rfl, rfl⟩
    · rintro ⟨e, f'', hx, rfl, rfl⟩
      cases hx
      rfl

theorem fits_eq_true_iff {depth : Nat} {pattern : Text} {t : Tree} (h : Tree.ofText pattern = .ok t) :
    fits depth pattern = true ↔ t.checkDepth depth = .ok () := by
  unfold fits
  rw [h]
  show (t.checkDepth depth).isOk = true ↔ _
  cases t.checkDepth depth <;> simp [Except.isOk, Except.toBool]

theorem compile_of_ofText {ignoreCase : Bool} {pattern : Text} {t : Tree} {w : Expr}
    (h : Tree.ofText pattern = .ok t) :
    compile ignoreCase (betweenEdges pattern) = .ok w ↔ ∃ e, compile ignoreCase pattern = .ok e ∧
      (swallows pattern = false ∧ fits 2 pattern = true ∧ Size.isTooLarge e.betweenEdges = false) ∧
        w = e.betweenEdges := by
  have hbetween := ofText_betweenEdges h
  rw [compile_eq_ok_iff, fits_eq_true_iff h]
  by_cases hswallows : swallows pattern = true
  · rw [if_pos hswallows] at hbetween
    obtain ⟨c, hc⟩ := hbetween
    simp [hc, hswallows]
  · rw [if_neg hswallows] at hbetween
    obtain ⟨u, hu, hsame⟩ := hbetween
    have hdepth : u.checkDepth 0 = .ok () ↔ t.checkDepth 2 = .ok () := by
      rw [← checkDepth_betweenEdges]
      exact (hsame.alike_checkDepth 0).ok_iff ()
    have hmeaning : ∀ f, Meaning.tree { ignoreCase } u = .ok (w, f) ↔
        ∃ e f', Meaning.tree { ignoreCase } t = .ok (e, f') ∧ w = e.betweenEdges ∧ f = { ignoreCase } :=
      fun f => ((hsame.alike_tree _).ok_iff _).trans (tree_betweenEdges rfl)
    constructor
    · rintro ⟨u', f, hu', hdepth', hmeaning', hsize⟩
      rw [hu] at hu'
      cases hu'
      obtain ⟨e, f', he, rfl, -⟩ := (hmeaning f).mp hmeaning'
      have hfits := hdepth.mp hdepth'
      refine ⟨e, compile_eq_ok_iff.mpr ⟨t, f', h, checkDepth_of_le (Nat.zero_le _) t hfits, he, ?_⟩, ?_⟩
      · exact isTooLarge_betweenEdges hsize
      · exact ⟨⟨Bool.not_eq_true _ ▸ hswallows, hfits, hsize⟩, rfl⟩
    · rintro ⟨e, he, ⟨-, hfits, hsize⟩, rfl⟩
      obtain ⟨t', f, ht', -, he', -⟩ := compile_eq_ok_iff.mp he
      rw [h] at ht'
      cases ht'
      exact ⟨u, _, hu, hdepth.mpr hfits, (hmeaning _).mpr ⟨e, f, he', rfl, rfl⟩, hsize⟩

/-- A pattern whose parentheses do not pair up with those around it is accepted between edges exactly if it
is accepted on its own, no comment takes in the closing parenthesis, and there is room for two levels and
for the boundaries. -/
theorem compile_betweenEdges {ignoreCase : Bool} {pattern : Text} {w : Expr}
    (hquestion : pattern.head? ≠ some '?') (hcloses : overcloses pattern = false) :
    compile ignoreCase (betweenEdges pattern) = .ok w ↔ ∃ e, compile ignoreCase pattern = .ok e ∧
      (swallows pattern = false ∧ fits 2 pattern = true ∧ Size.isTooLarge e.betweenEdges = false) ∧
        w = e.betweenEdges := by
  cases hread : Tree.ofText pattern with
  | ok t => exact compile_of_ofText hread
  | error c =>
    constructor
    · intro hw
      obtain ⟨u, -, hu, -⟩ := compile_eq_ok_iff.mp hw
      obtain ⟨t, ht⟩ := ofText_of_betweenEdges hu hquestion hcloses
      rw [hread] at ht
      cases ht
    · rintro ⟨e, he, -⟩
      obtain ⟨t, -, ht, -⟩ := compile_eq_ok_iff.mp he
      rw [hread] at ht
      cases ht

/-! ## Matches -/

/-- Is the place an edge of a word: is exactly one of the characters around it a word character? -/
def AtEdge (text : Text) (i : Nat) : Prop :=
  (charBefore text i).any Unicode.isWord ≠ text[i]?.any Unicode.isWord

/-- Is there no word character right before the first place, and none right after the second one? -/
def Apart (text : Text) (i j : Nat) : Prop :=
  (charBefore text i).any Unicode.isWord = false ∧ text[j]?.any Unicode.isWord = false

theorem spans_edge {text : Text} {i j : Nat} :
    (Expr.place (.word true .edge)).Spans text i j ↔ AtEdge text i ∧ i = j :=
  and_congr_left fun _ => bne_iff_ne

/-- The lines in which the expression matches from an edge to an edge. -/
theorem isMatch_betweenEdges {e : Expr} {text : Text} :
    e.betweenEdges.isMatch text = true ↔
      ∃ i j, i ≤ text.length ∧ e.Spans text i j ∧ AtEdge text i ∧ AtEdge text j := by
  rw [Expr.isMatch_iff]
  constructor
  · rintro ⟨i, k, hi, i', hbefore, j, hspans, hbehind⟩
    obtain ⟨hfirst, rfl⟩ := spans_edge.mp hbefore
    obtain ⟨hlast, rfl⟩ := spans_edge.mp hbehind
    exact ⟨i, j, hi, hspans, hfirst, hlast⟩
  · rintro ⟨i, j, hi, hspans, hfirst, hlast⟩
    exact ⟨i, j, hi, i, spans_edge.mpr ⟨hfirst, rfl⟩, j, hspans, spans_edge.mpr ⟨hlast, rfl⟩⟩

/-- A match that starts and ends with word characters stands between edges exactly if no word character is
next to it. -/
theorem apart_iff_atEdge {text : Text} {i j : Nat} (hfirst : text[i]?.any Unicode.isWord = true)
    (hlast : (charBefore text j).any Unicode.isWord = true) : Apart text i j ↔ AtEdge text i ∧ AtEdge text j := by
  unfold Apart AtEdge
  rw [hfirst, hlast, ne_eq, Bool.not_eq_true, ne_eq, eq_comm (a := true), Bool.not_eq_true]

end Pattern

namespace Builtin.Grep

open Pattern

/-- `grep` for whole words. A pattern is refused if it is refused on its own, unless it starts with a question
mark or closes a group that it has not opened; these would pair up with the parentheses around the pattern. A
pattern that is accepted on its own is refused only if it ends in a comment, which takes in the closing
parenthesis, or if there is no room for two levels more or for the boundaries. Otherwise a line is printed
exactly if the pattern matches in it from an edge of a word to an edge of a word. For a pattern whose matches
start and end with word characters, this is a match with no word character next to it. -/
theorem whole_words (site : Site) {grep : Grep} (hwords : grep.wholeWords = true) :
    let accepted (e : Expr) := compile grep.ignoreCase grep.pattern = .ok e ∧
      swallows grep.pattern = false ∧ fits 2 grep.pattern = true ∧ Size.isTooLarge e.betweenEdges = false
    ((¬ ∃ e, accepted e) → grep.pattern.head? ≠ some '?' → overcloses grep.pattern = false → ∃ refusal,
      grep.behaviour site = .prints ⟨Utf8.encode (complaint grep.patternText refusal), 1⟩) ∧
    ∀ e, accepted e →
      compile grep.ignoreCase grep.patternText = .ok e.betweenEdges ∧
      (grep.files = [] → grep.after = 0 → ∀ data,
        (grep.behaviour site).filter data = Utf8.encode (Text.ofLines (kept e.betweenEdges data))) ∧
      (∀ text, e.betweenEdges.isMatch text = true ↔
        ∃ i j, i ≤ text.length ∧ e.Spans text i j ∧ AtEdge text i ∧ AtEdge text j) ∧
      ∀ text, (∀ i j, e.Spans text i j →
          text[i]?.any Unicode.isWord = true ∧ (charBefore text j).any Unicode.isWord = true) →
        (e.betweenEdges.isMatch text = true ↔ ∃ i j, i ≤ text.length ∧ e.Spans text i j ∧ Apart text i j) := by
  intro accepted
  have htext : grep.patternText = Pattern.betweenEdges grep.pattern := by
    unfold patternText
    rw [if_pos hwords]
    rfl
  have hvalid : ∀ e, accepted e → compile grep.ignoreCase grep.patternText = .ok e.betweenEdges := by
    intro e haccepted
    obtain ⟨t, -, hread, -⟩ := compile_eq_ok_iff.mp haccepted.1
    rw [htext]
    exact (compile_of_ofText hread).mpr ⟨e, haccepted.1, haccepted.2, rfl⟩
  refine ⟨fun hrefused hquestion hcloses => ?_, fun e haccepted => ⟨hvalid e haccepted, ?_, fun text => ?_, ?_⟩⟩
  · cases hresult : compile grep.ignoreCase grep.patternText with
    | ok w =>
      rw [htext] at hresult
      obtain ⟨e, he, hroom, -⟩ := (compile_betweenEdges hquestion hcloses).mp hresult
      exact absurd ⟨e, he, hroom⟩ hrefused
    | error refusal =>
      refine ⟨refusal, ?_⟩
      unfold behaviour
      rw [hresult]
  · intro hfiles hafter data
    exact filter_unnamed hfiles hafter (hvalid e haccepted) site data
  · exact isMatch_betweenEdges
  · intro text hends
    rw [isMatch_betweenEdges]
    refine exists_congr fun i => exists_congr fun j => and_congr_right fun _ => and_congr_right fun hspans => ?_
    exact (apart_iff_atEdge (hends i j hspans).1 (hends i j hspans).2).symm

/-- The word `hell` in two lines, only one of which has it as a whole word. -/
theorem whole_words_hell :
    let grep : Grep := { pattern := "hell".toList, wholeWords := true }
    let site : Site := ⟨({} : Host).machine, []⟩
    ∃ e, grep.wholeWords = true ∧
      (compile grep.ignoreCase grep.pattern = .ok e ∧
        swallows grep.pattern = false ∧ fits 2 grep.pattern = true ∧ Size.isTooLarge e.betweenEdges = false) ∧
      (grep.behaviour site).filter "hello world\nhell is here\n".toUTF8.data.toList =
        "hell is here\n".toUTF8.data.toList := by
  intro grep site
  let e : Expr := .cat (.char 'h') (.cat (.char 'e') (.cat (.char 'l') (.char 'l')))
  have haccepted : compile grep.ignoreCase grep.pattern = .ok e ∧
      swallows grep.pattern = false ∧ fits 2 grep.pattern = true ∧ Size.isTooLarge e.betweenEdges = false :=
    ⟨rfl, by decide +kernel, by decide +kernel, by decide +kernel⟩
  have hwords : grep.wholeWords = true := rfl
  obtain ⟨-, hprints⟩ := whole_words site hwords
  refine ⟨e, hwords, haccepted, ?_⟩
  rw [(hprints e haccepted).2.1 rfl rfl]
  decide +kernel

end Builtin.Grep

namespace Session

open Builtin Pattern

def hyphened : Host :=
  { tree := ({} : Host.Tree).add (Host.location "/f") (.file "-\na-b\n".toUTF8.data.toList false) }

/-- A hyphen between words is between edges, and a word character is on either side of it; a hyphen alone
has none next to it, and is not found. With a comment at the end a pattern is refused for whole words only,
and one that closes a parenthesis too many is accepted for whole words only. -/
theorem hyphen_between_words :
    let m := hyphened.machine
    let search : Stage := Stage.quoted ["grep".toList, "-w".toList, "--".toList, "-".toList, "f".toList]
    let words (pattern : Text) : Grep := { pattern, wholeWords := true }
    compile false ['-'] = .ok (.char '-') ∧
      search.IsGrep { words ['-'] with files := ["f".toList] } ∧
      (({} : Session).chain m [search]).2.streams.sink.written = "a-b\n".toUTF8.data.toList ∧
      (∃ i j, (Expr.char '-').Spans ['-'] i j ∧ Apart ['-'] i j) ∧
      ¬ (∃ i j, (Expr.char '-').Spans ['a', '-', 'b'] i j ∧ Apart ['a', '-', 'b'] i j) ∧
      (compile false "(?x)a #".toList).isOk = true ∧
      (compile false (words "(?x)a #".toList).patternText).isOk = false ∧
      (compile false "a)(b".toList).isOk = false ∧
      (compile false (words "a)(b".toList).patternText).isOk = true := by
  intro m search words
  have hparse : Grep.parse ["-w".toList, "--".toList, "-".toList, "f".toList] =
      .ok { words ['-'] with files := ["f".toList] } := rfl
  refine ⟨rfl, Stage.calls_quoted _ hparse, by decide +kernel, ⟨0, 1, ⟨rfl, rfl⟩, by decide, by decide⟩, ?_,
    by decide +kernel, by decide +kernel, by decide +kernel, by decide +kernel⟩
  rintro ⟨i, j, ⟨hchar, rfl⟩, hbefore, -⟩
  match i with
  | 0 => cases hchar
  | 1 => exact absurd hbefore (by decide)
  | 2 => cases hchar
  | _ + 3 => cases hchar

end Session

end LineShell
