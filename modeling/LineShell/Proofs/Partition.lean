import LineShell.Proofs.Decoding
import LineShell.Proofs.Passes
import Mathlib.Data.List.Chain

/-!
The tokens of a line as a partition of it. There is only one way to cut a line into delimiters, each on its
own, and runs without delimiters that do not touch. The scan finds it by characters. So does a loop over
offsets in the line's octets, which remembers where the word begins that it has not completed; each of its
slices starts and ends at a character.

  - `slice?_eq_some_iff` / `encode_slice` / `isSome_slice?_iff`: what a slice is, and where there is one.
  - `step_holds` / `foldlM_holds`: what the loop keeps from one character to the next, and so over a line.
  - `cut_eq_scan`: the loop cuts what the scan does, and never lacks a slice.
  - `eq_scan_of_partition`: a partition is the scan.
  - `partition_iff_scan`: all of it, for every line.
-/

namespace LineShell

/-! ## Offsets -/

namespace Utf8

def size (text : Text) : Nat := (encode text).length

@[simp] theorem size_nil : size [] = 0 := rfl

theorem size_cons (c : Char) (r : Text) : size (c :: r) = c.utf8Size + size r := by
  simp [size, encode_cons]

theorem size_append (a b : Text) : size (a ++ b) = size a + size b := by
  simp [size, encode_append]

theorem size_eq_zero_iff {text : Text} : size text = 0 ↔ text = [] := by
  cases text with
  | nil => simp
  | cons c r =>
    have hpos := c.utf8Size_pos
    simp only [size_cons, List.cons_ne_nil, iff_false]
    omega

/-- Cut a text at an offset into its octets. There is no cut inside a character, and none behind the end. -/
def cut? : Nat → Text → Option (Text × Text)
  | 0, text => some ([], text)
  | _ + 1, [] => none
  | n + 1, c :: r =>
    if c.utf8Size ≤ n + 1 then (cut? (n + 1 - c.utf8Size) r).map fun (a, b) => (c :: a, b) else none

/-- The part of a text between two offsets. There is none if they are in the wrong order or one of them is no
place for a cut. -/
def slice? (text : Text) (start stop : Nat) : Option Text :=
  if start ≤ stop then do
    let (_, tail) ← cut? start text
    let (part, _) ← cut? (stop - start) tail
    some part
  else none

/-- The offset lies between two characters, or at an end of the text. -/
def IsBoundary (text : Text) (n : Nat) : Prop := ∃ a b, text = a ++ b ∧ size a = n

variable {text part a b : Text} {n start stop : Nat}

theorem cut?_append (a b : Text) : cut? (size a) (a ++ b) = some (a, b) := by
  induction a with
  | nil => simp [cut?]
  | cons c r ih =>
    have hpos := c.utf8Size_pos
    obtain ⟨n, hn⟩ : ∃ n, size (c :: r) = n + 1 := ⟨c.utf8Size + size r - 1, by rw [size_cons]; omega⟩
    have hrest : n + 1 - c.utf8Size = size r := by rw [size_cons] at hn; omega
    have hle : c.utf8Size ≤ n + 1 := by rw [size_cons] at hn; omega
    rw [List.cons_append, hn, cut?, if_pos hle, hrest, ih]
    rfl

theorem cut?_eq_some_iff : cut? n text = some (a, b) ↔ text = a ++ b ∧ size a = n := by
  constructor
  · intro h
    induction text generalizing n a with
    | nil =>
      cases n with
      | zero => simp_all [cut?]
      | succ n => simp [cut?] at h
    | cons c r ih =>
      cases n with
      | zero => simp_all [cut?]
      | succ n =>
        rw [cut?] at h
        split at h
        · rename_i hle
          obtain ⟨⟨a', b'⟩, hcut, hpair⟩ := Option.map_eq_some_iff.mp h
          cases hpair
          obtain ⟨rfl, hsize⟩ := ih hcut
          refine ⟨rfl, ?_⟩
          rw [size_cons, hsize]
          omega
        · cases h
  · rintro ⟨rfl, rfl⟩
    exact cut?_append a b

/-- A slice is what stands between two parts of the text whose sizes are the offsets. -/
theorem slice?_eq_some_iff :
    slice? text start stop = some part ↔
      ∃ a b, text = a ++ part ++ b ∧ size a = start ∧ size a + size part = stop := by
  unfold slice?
  constructor
  · intro h
    split at h
    · rename_i hle
      obtain ⟨⟨a, tail⟩, hcut, h⟩ := Option.bind_eq_some_iff.mp h
      obtain ⟨⟨part', b⟩, hpart, h⟩ := Option.bind_eq_some_iff.mp h
      obtain rfl : part' = part := Option.some.inj h
      obtain ⟨rfl, hstart⟩ := cut?_eq_some_iff.mp hcut
      obtain ⟨rfl, hsize⟩ := cut?_eq_some_iff.mp hpart
      exact ⟨a, b, (List.append_assoc a part' b).symm, hstart, by omega⟩
    · cases h
  · rintro ⟨a, b, rfl, rfl, rfl⟩
    have hpart : size a + size part - size a = size part := by omega
    rw [if_pos (Nat.le_add_right _ _), List.append_assoc, cut?_append, hpart]
    show (cut? (size part) (part ++ b)).bind _ = _
    rw [cut?_append]
    rfl

/-- The octets of a slice are those from the one offset to the other. -/
theorem encode_slice (h : slice? text start stop = some part) :
    encode part = ((encode text).drop start).take (stop - start) := by
  obtain ⟨a, b, rfl, rfl, rfl⟩ := slice?_eq_some_iff.mp h
  rw [encode_append, encode_append, List.append_assoc, Nat.add_sub_cancel_left, size, size, List.drop_left,
    List.take_left]

/-- There is a slice exactly between two boundaries in the right order. -/
theorem isSome_slice?_iff :
    (slice? text start stop).isSome = true ↔ start ≤ stop ∧ IsBoundary text start ∧ IsBoundary text stop := by
  rw [Option.isSome_iff_exists]
  constructor
  · rintro ⟨part, h⟩
    obtain ⟨a, b, rfl, rfl, rfl⟩ := slice?_eq_some_iff.mp h
    exact ⟨Nat.le_add_right _ _, ⟨a, part ++ b, by simp, rfl⟩, ⟨a ++ part, b, rfl, size_append a part⟩⟩
  · rintro ⟨hle, ⟨a, b, rfl, rfl⟩, ⟨a', b', heq, rfl⟩⟩
    rcases List.append_eq_append_iff.mp heq with ⟨part, rfl, rfl⟩ | ⟨part, rfl, rfl⟩
    · exact ⟨part, slice?_eq_some_iff.mpr ⟨a, b', by simp, rfl, (size_append a part).symm⟩⟩
    · -- the second boundary is before the first one only if nothing is between them
      rw [size_append] at hle
      obtain rfl : part = [] := size_eq_zero_iff.mp (by omega)
      exact ⟨[], slice?_eq_some_iff.mpr ⟨a', b, by simp, by simp, by simp⟩⟩

end Utf8

namespace Token

open Utf8 (size slice? size_cons size_append)

/-! ## The loop -/

/-- Where the word begins that is not yet complete, and the tokens before it. -/
structure Cutting where
  wordStart : Option Nat := none
  tokens : List Token := []
  deriving DecidableEq, Repr

def Cutting.finishWord (line : Text) (stop : Nat) (state : Cutting) : Option Cutting :=
  match state.wordStart with
  | some start => do
    let word ← slice? line start stop
    some { wordStart := none, tokens := state.tokens ++ [word] }
  | none => some state

/-- Take in a character at its offset. A delimiter completes the word before it and is a token of its own; any
other character belongs to a word, and begins it if there is none. -/
def Cutting.step (line : Text) (state : Cutting) : Nat × Char → Option Cutting
  | (offset, c) =>
    if isDelimiter c then do
      let state ← state.finishWord line offset
      let token ← slice? line offset (offset + c.utf8Size)
      some { state with tokens := state.tokens ++ [token] }
    else if state.wordStart.isNone then some { state with wordStart := some offset }
    else some state

def indexed (offset : Nat) : Text → List (Nat × Char)
  | [] => []
  | c :: r => (offset, c) :: indexed (offset + c.utf8Size) r

/-- Cut a line by offsets, if all the slices that this takes are there. -/
def cut? (line : Text) : Option (List Token) := do
  let state ← (indexed 0 line).foldlM (Cutting.step line) {}
  let state ← state.finishWord line (size line)
  some state.tokens

def IsRun (token : Token) : Prop := token ≠ [] ∧ ∀ c ∈ token, isDelimiter c = false

variable {line before word todo r : Text} {c : Char} {state : Cutting} {tokens : List Token} {token : Token}

/-- What the loop has cut and what the scan makes of the rest are the tokens of the line. Between the two lies
the word that is not yet complete. -/
structure Cutting.Holds (line before word todo : Text) (state : Cutting) : Prop where
  line_eq : line = before ++ word ++ todo
  word_free : ∀ c ∈ word, isDelimiter c = false
  wordStart_eq : state.wordStart = if word = [] then none else some (size before)
  tokens_eq : state.tokens ++ scan (word ++ todo) = scan line

namespace Cutting

theorem finishWord_holds (h : state.Holds line before word todo) :
    state.finishWord line (size (before ++ word)) =
      some { wordStart := none, tokens := state.tokens ++ if word = [] then [] else [word] } := by
  have hstart := h.wordStart_eq
  unfold finishWord
  by_cases hword : word = []
  · rw [if_pos hword] at hstart
    simp only [hstart, if_pos hword, List.append_nil]
    rw [← hstart]
  · rw [if_neg hword] at hstart
    have hslice : slice? line (size before) (size (before ++ word)) = some word :=
      Utf8.slice?_eq_some_iff.mpr ⟨before, todo, h.line_eq, rfl, (size_append before word).symm⟩
    simp only [hstart, hslice, if_neg hword]
    rfl

/-- A word, completed or not, is cut off by the delimiter behind it. -/
theorem scan_word_delimiter (hword : ∀ c ∈ word, isDelimiter c = false) (hc : isDelimiter c = true) (r : Text) :
    scan (word ++ c :: r) = (if word = [] then [] else [word]) ++ [c] :: scan r := by
  rw [scan_append_delimiter hc]
  split
  · rename_i hnil
    rw [hnil]
    rfl
  · rename_i hne
    rw [scan_of_free hne hword]

/-- One character more, and it holds of the rest. -/
theorem step_holds (h : state.Holds line before word (c :: r)) :
    ∃ state' before' word', state.step line (size (before ++ word), c) = some state' ∧
      size (before' ++ word') = size (before ++ word) + c.utf8Size ∧ state'.Holds line before' word' r := by
  have hline : line = (before ++ word) ++ [c] ++ r := by rw [h.line_eq]; simp
  have hsize : size [c] = c.utf8Size := by rw [size_cons]; rfl
  cases hc : isDelimiter c with
  | true =>
    have hslice : slice? line (size (before ++ word)) (size (before ++ word) + c.utf8Size) = some [c] :=
      Utf8.slice?_eq_some_iff.mpr ⟨before ++ word, r, hline, rfl, by rw [hsize]⟩
    have hstep : state.step line (size (before ++ word), c) =
        some { wordStart := none, tokens := (state.tokens ++ if word = [] then [] else [word]) ++ [[c]] } := by
      simp only [step, hc, if_true, finishWord_holds h, Option.bind_eq_bind, Option.bind_some, hslice]
    refine ⟨_, before ++ word ++ [c], [], hstep, ?_, ?_⟩
    · rw [List.append_nil, size_append _ [c], hsize]
    · refine ⟨by rw [hline]; simp, by simp, rfl, ?_⟩
      rw [← h.tokens_eq, scan_word_delimiter h.word_free hc]
      simp
  | false =>
    have hfree : ∀ d ∈ word ++ [c], isDelimiter d = false := by
      intro d hd
      rcases List.mem_append.mp hd with hd | hd
      · exact h.word_free d hd
      · rw [List.mem_singleton.mp hd, hc]
    have hstep : state.step line (size (before ++ word), c) =
        some { state with wordStart := some (size before) } := by
      have hstart := h.wordStart_eq
      by_cases hword : word = []
      · rw [if_pos hword] at hstart
        simp [step, hc, hstart, hword]
      · rw [if_neg hword] at hstart
        simp only [step, hc, hstart, Option.isNone_some, Bool.false_eq_true, if_false]
        rw [← hstart]
    refine ⟨_, before, word ++ [c], hstep, ?_, ?_⟩
    · rw [← List.append_assoc, size_append _ [c], hsize]
    · refine ⟨by rw [hline]; simp, hfree, by simp, ?_⟩
      rw [← h.tokens_eq]
      simp

/-- So it holds at the end, and no slice was missing on the way. -/
theorem foldlM_holds (h : state.Holds line before word todo) :
    ∃ state' before' word', (indexed (size (before ++ word)) todo).foldlM (step line) state = some state' ∧
      state'.Holds line before' word' [] := by
  induction todo generalizing state before word with
  | nil => exact ⟨state, before, word, rfl, h⟩
  | cons c r ih =>
    obtain ⟨next, before', word', hstep, hsize, hnext⟩ := step_holds h
    obtain ⟨state', before'', word'', hfold, hend⟩ := ih hnext
    refine ⟨state', before'', word'', ?_, hend⟩
    rw [indexed, List.foldlM_cons, hstep, ← hsize]
    exact hfold

end Cutting

/-- Every slice of the loop is there, and its tokens are those of the scan. -/
theorem cut_eq_scan (line : Text) : cut? line = some (scan line) := by
  have hstart : Cutting.Holds line [] [] line {} := ⟨rfl, by simp, rfl, rfl⟩
  obtain ⟨state, before, word, hfold, hend⟩ := Cutting.foldlM_holds hstart
  have hline : line = before ++ word := by rw [hend.line_eq, List.append_nil]
  have hfinish := Cutting.finishWord_holds hend
  rw [← hline] at hfinish
  have htokens : (state.tokens ++ if word = [] then [] else [word]) = scan line := by
    rw [← hend.tokens_eq, List.append_nil]
    split
    · rename_i hnil
      rw [hnil]
      rfl
    · rename_i hne
      rw [scan_of_free hne hend.word_free]
  have hindexed : (indexed 0 line).foldlM (Cutting.step line) {} = some state := hfold
  rw [cut?, hindexed]
  show (state.finishWord line (size line)).bind _ = _
  rw [hfinish, ← htokens]
  rfl

/-! ## Partitions -/

/-- A way to cut a line: each token is a single delimiter or a run without delimiters, and no run is cut in
two. -/
structure Partition (line : Text) (tokens : List Token) : Prop where
  flatten_eq : tokens.flatten = line
  piece : ∀ token ∈ tokens, (∃ c, isDelimiter c = true ∧ token = [c]) ∨ IsRun token
  apart : tokens.IsChain fun a b => ¬ (IsRun a ∧ IsRun b)

/-- What comes after the run that a text starts with does not start with another one. -/
theorem head?_scan_afterRun (r : Text) : ∀ token ∈ (scan (afterRun r)).head?, ¬ IsRun token := by
  intro token htoken hrun
  have hfirst := List.head?_dropWhile_not (fun c => !isDelimiter c) r
  cases hrest : afterRun r with
  | nil =>
    rw [hrest] at htoken
    cases htoken
  | cons d rest =>
    have hd : isDelimiter d = true := by
      rw [show r.dropWhile _ = d :: rest from hrest] at hfirst
      simpa using hfirst
    rw [hrest, scan_delimiter hd] at htoken
    cases htoken
    rw [hrun.2 d List.mem_cons_self] at hd
    cases hd

theorem isRun_cons_run (hc : isDelimiter c = false) (r : Text) : IsRun (c :: run r) := by
  refine ⟨List.cons_ne_nil _ _, fun d hd => ?_⟩
  rcases List.mem_cons.mp hd with rfl | hd
  · exact hc
  · simpa using List.all_eq_true.mp List.all_takeWhile d hd

theorem not_isRun_delimiter (hc : isDelimiter c = true) : ¬ IsRun [c] := by
  intro h
  rw [h.2 c List.mem_cons_self] at hc
  cases hc

theorem partition_scan (line : Text) : Partition line (scan line) := by
  induction line using scan_induction with
  | nil => exact ⟨rfl, nofun, .nil⟩
  | delimiter c r hc ih =>
    rw [scan_delimiter hc]
    refine ⟨by rw [List.flatten_cons, ih.flatten_eq]; rfl, ?_, ?_⟩
    · intro token htoken
      rcases List.mem_cons.mp htoken with rfl | htoken
      · exact Or.inl ⟨c, hc, rfl⟩
      · exact ih.piece token htoken
    · rw [List.isChain_cons]
      exact ⟨fun token _ hboth => not_isRun_delimiter hc hboth.1, ih.apart⟩
  | word c r hc ih =>
    rw [scan_word hc]
    refine ⟨?_, ?_, ?_⟩
    · rw [List.flatten_cons, ih.flatten_eq, List.cons_append, run, afterRun, List.takeWhile_append_dropWhile]
    · intro token htoken
      rcases List.mem_cons.mp htoken with rfl | htoken
      · exact Or.inr (isRun_cons_run hc r)
      · exact ih.piece token htoken
    · rw [List.isChain_cons]
      exact ⟨fun token htoken hboth => head?_scan_afterRun r token htoken hboth.2, ih.apart⟩

theorem Partition.tail (h : Partition line (token :: tokens)) : Partition tokens.flatten tokens :=
  ⟨rfl, fun t ht => h.piece t (List.mem_cons_of_mem _ ht), (List.isChain_cons.mp h.apart).2⟩

/-- A run is scanned up to where a partition cuts it off. -/
theorem Partition.scan_run (h : Partition line (token :: tokens)) (hrun : IsRun token) :
    scan (token ++ tokens.flatten) = token :: scan tokens.flatten := by
  cases tokens with
  | nil =>
    rw [List.flatten_nil, List.append_nil, scan_of_free hrun.1 hrun.2]
    rfl
  | cons next rest =>
    -- the token behind a run is a delimiter
    obtain ⟨d, hd, rfl⟩ | hnext := h.piece next (by simp)
    · rw [List.flatten_cons, List.singleton_append, scan_append_delimiter hd, scan_of_free hrun.1 hrun.2, scan_delimiter hd]
      rfl
    · exact absurd ⟨hrun, hnext⟩ (List.isChain_cons_cons.mp h.apart).1

theorem eq_scan_of_partition (h : Partition line tokens) : tokens = scan line := by
  induction tokens generalizing line with
  | nil =>
    rw [← h.flatten_eq]
    rfl
  | cons token tokens ih =>
    have hrest := ih h.tail
    rw [← h.flatten_eq, List.flatten_cons]
    rcases h.piece token List.mem_cons_self with ⟨c, hc, rfl⟩ | hrun
    · rw [List.singleton_append, scan_delimiter hc, ← hrest]
    · rw [h.scan_run hrun, ← hrest]

/-- **One partition.** The tokens of a line are the one and only way to cut it into single delimiters and runs
without delimiters that do not touch; so the line put together again is cut in the same way. A loop over the
offsets of the line's characters cuts it so too, and all its slices are there: none starts or ends inside a
character or behind the end. -/
theorem partition_iff_scan (line : Text) :
    (∀ tokens, Partition line tokens ↔ tokens = scan line) ∧ scan (scan line).flatten = scan line ∧
      cut? line = some (scan line) := by
  refine ⟨fun tokens => ⟨eq_scan_of_partition, ?_⟩, ?_, cut_eq_scan line⟩
  · rintro rfl
    exact partition_scan line
  · rw [scan_flatten]

/-- A blank of three octets between words of two. -/
example : cut? "é\u3000é=".toList = some [['é'], ['\u3000'], ['é'], ['=']] := by decide

end Token

end LineShell
