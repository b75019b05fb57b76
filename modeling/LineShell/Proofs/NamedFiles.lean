import LineShell.Proofs.Chunks

/-!
Files named to a command, and the same files put into it by `cat`. A file that can be read is given to
`grep` and `wc` as the same bytes either way; what differs is the name that `wc` puts behind its counts.

  - `visitAll_readable`: the reply for files that can all be read.
  - `answer_cat`: `cat` prints the files one after the other.
  - `grep_named` / `wc_named`: the answer for one file, by that to its content.
  - `named_eq_piped`: the two forms of a line.
-/

namespace LineShell

namespace Builtin

variable {site : Site} {file : Text} {files : List Text} {data : Bytes}

def Site.content (site : Site) (file : Text) : Bytes := (site.read file).toOption.getD []

theorem Site.content_of_read (h : site.read file = .ok data) : site.content file = data := by
  rw [content, h]
  rfl

theorem Site.visitAll_readable (command : Text) (render : Text → Bytes → Bytes)
    (h : ∀ file ∈ files, ∃ data, site.read file = .ok data) :
    site.visitAll command render files = ⟨files.flatMap fun file => render file (site.content file), 0⟩ := by
  have hcode : site.code files = 0 := by
    refine if_neg ?_
    rintro ⟨file, hmem, cause, hcause⟩
    obtain ⟨data, hread⟩ := h file hmem
    cases hread.symm.trans hcause
  have hchunks : ∀ file ∈ files,
      chunk command (render file) file (site.read file) = render file (site.content file) := by
    intro file hmem
    obtain ⟨data, hread⟩ := h file hmem
    rw [content_of_read hread, hread]
    rfl
  rw [visitAll_eq, hcode, List.flatMap_congr hchunks]

theorem Site.visitAll_singleton (command : Text) (chunk : Text → Bytes → Bytes) (h : site.read file = .ok data) :
    site.visitAll command chunk [file] = ⟨chunk file data, 0⟩ := by
  have hall := visitAll_readable command chunk fun f hf => ⟨data, by rwa [List.mem_singleton.mp hf]⟩
  rw [hall, List.flatMap_singleton, content_of_read h]

/-- `cat` prints the files one after the other, whatever there is to read. -/
theorem answer_cat (hne : files ≠ []) (h : ∀ file ∈ files, ∃ data, site.read file = .ok data) (input : Input) :
    (Cat.behaviour site files).answer input = (⟨files.flatMap site.content, 0⟩, input) := by
  obtain ⟨file, files, rfl⟩ := List.exists_cons_of_ne_nil hne
  rw [Cat.behaviour, Site.visitAll_readable Cat.name (fun _ data => data) h, Behaviour.answer]
  exact List.cons_ne_nil _ _

def Grep.named (grep : Grep) (file : Text) : Grep := { grep with files := [file] }

def Grep.unnamed (grep : Grep) : Grep := { grep with files := [] }

/-- A file named to `grep` gives what its content gives, a refusal of the pattern included, and nothing
else is read. -/
theorem grep_named (grep : Grep) (h : site.read file = .ok data) (input : Input) :
    ((grep.named file).behaviour site).answer input =
      ((grep.unnamed.behaviour site).answer (.upstream data) |>.1, input) := by
  have hcompile : Pattern.compile (grep.named file).ignoreCase (grep.named file).patternText =
      Pattern.compile grep.unnamed.ignoreCase grep.unnamed.patternText := rfl
  have hvisit := fun e => Site.visitAll_singleton Grep.name
    (fun f => (grep.named file).output e ((grep.named file).label f)) h
  simp only [Grep.behaviour, hcompile]
  cases Pattern.compile grep.unnamed.ignoreCase grep.unnamed.patternText with
  | error refusal => rfl
  | ok e =>
    show ((Site.visitAll site Grep.name _ [file]), input) = _
    rw [hvisit e]
    rfl

def Wc.named (counts file : Text) : Bytes := Utf8.encode (counts ++ ' ' :: file ++ ['\n'])

def Wc.unnamed (counts : Text) : Bytes := Utf8.encode (counts ++ ['\n'])

/-- A file named to `wc` is counted as its content is, and nothing else is read. -/
theorem wc_named (h : site.read file = .ok data) (input : Input) :
    (Wc.behaviour site [file]).answer input = (⟨Wc.named (Counts.ofBytes data).text file, 0⟩, input) := by
  have hvisit := Site.visitAll_singleton Wc.name
    (fun f d => Utf8.encode (Wc.labelled (Counts.ofBytes d) f)) h
  have htotal : Wc.totalLine site [file] = [] := rfl
  rw [Wc.behaviour, hvisit, htotal]
  · simp only [Behaviour.answer, Utf8.encode_nil, List.append_nil]
    rfl
  · exact List.cons_ne_nil _ _

theorem wc_unnamed (site : Site) (data : Bytes) :
    (Wc.behaviour site []).answer (.upstream data) = (⟨Wc.unnamed (Counts.ofBytes data).text, 0⟩, .upstream []) := rfl

/-- The counts are the same in both, and only they. -/
theorem Wc.named_iff_unnamed (counts others file : Text) :
    Wc.named counts file = Wc.named others file ↔ Wc.unnamed counts = Wc.unnamed others := by
  have hboth : ∀ tail : Text, Utf8.encode (counts ++ tail) = Utf8.encode (others ++ tail) ↔ counts = others := by
    intro tail
    constructor
    · intro h
      exact List.append_cancel_right (Utf8.encode_inj h)
    · intro h
      rw [h]
  unfold named unnamed
  rw [List.append_assoc, List.append_assoc, hboth, hboth]

end Builtin

namespace Session

open Builtin

/-- A line of commands that read nothing, or what is before them, leaves the source as it is. -/
theorem printing_source (s : Session) (bytes : Bytes) : (s.printing bytes).2.streams.source = s.streams.source :=
  finish_source

/-- A file that can be read, named to `grep` or `wc` or put into it by `cat`. `grep` replies in the same
way, with the same code if the pattern is valid and the same complaint if it is not, and the two lines do
the same; `wc` replies with the same counts, and puts the name behind them only if it was given. What
there is to read otherwise, from the source or from a stage before, is left when the file is named. -/
theorem named_eq_piped (s : Session) (m : Machine) {file : Text} {data : Bytes}
    (hread : (⟨m, s.directory⟩ : Site).read file = .ok data) (grep : Grep) :
    let site : Site := ⟨m, s.directory⟩
    let counts := (Counts.ofBytes data).text
    (∀ input, ((grep.named file).behaviour site).answer input =
        (((grep.unnamed).behaviour site).answer (.upstream data) |>.1, input)) ∧
      (∀ input, (Wc.behaviour site [file]).answer input = (⟨Wc.named counts file, 0⟩, input)) ∧
      (Wc.behaviour site []).answer (.upstream data) = (⟨Wc.unnamed counts, 0⟩, .upstream []) ∧
      (∀ printed, Wc.named counts file = Wc.named printed file ↔ Wc.unnamed counts = Wc.unnamed printed) ∧
      ∀ copy : Stage, copy.IsCat [file] →
        (∀ search filter : Stage, search.IsGrep (grep.named file) → filter.IsGrep grep.unnamed →
          s.chain m [search] = s.chain m [copy, filter] ∧
            (s.chain m [search]).2.streams.source = s.streams.source) ∧
        ∀ count tally : Stage, count.IsWc [file] → tally.IsWc [] →
          s.chain m [count] = s.printing (Wc.named counts file) ∧
            s.chain m [copy, tally] = s.printing (Wc.unnamed counts) ∧
            (s.chain m [count]).2.streams.source = s.streams.source := by
  intro site counts
  have hgrep := grep_named grep hread
  have hwc := wc_named hread
  refine ⟨hgrep, hwc, wc_unnamed site data, fun printed => Wc.named_iff_unnamed counts printed file, ?_⟩
  intro copy hcopy
  have hcat : ∀ input, (Cat.behaviour site [file]).answer input = (⟨data, 0⟩, input) := by
    intro input
    rw [answer_cat (List.cons_ne_nil _ _) fun f hf => ⟨data, by rwa [List.mem_singleton.mp hf]⟩,
      List.flatMap_singleton, Site.content_of_read hread]
  -- whatever the pipe held, `cat` puts the content of the file there
  have hcopied : ∀ before, (Cat.behaviour site [file]).filter before = data := by
    intro before
    rw [Behaviour.filter, hcat]
  refine ⟨fun search filter hsearch hfilter => ?_, fun count tally hcount htally => ?_⟩
  · have hnamed := s.chain_alone (hsearch.behaves site) hgrep
    have hpiped := s.chain_pair (hcopy.behaves site) (hfilter.behaves site)
    rw [hcopied] at hpiped
    refine ⟨hnamed.trans hpiped.symm, ?_⟩
    rw [hnamed]
    exact s.printing_source _
  · have hnamed := s.chain_alone (hcount.behaves site) hwc
    have hpiped := s.chain_pair (hcopy.behaves site) (htally.behaves site)
    rw [hcopied] at hpiped
    refine ⟨hnamed, hpiped, ?_⟩
    rw [hnamed]
    exact s.printing_source _

/-- A file with an octet that is no text, a carriage return and no newline at its end. -/
def ragged : Bytes := [97, 255, 13, 10, 98, 10, 97]

def keeping : Host := { tree := ({} : Host.Tree).add (Host.location "/f") (.file ragged false) }

/-- The source is not to be read, and the pipe holds bytes of a run that failed. -/
def pressed : Session :=
  { streams := { pipe := { output := [120] }, source := { rest := [97], failure := some Sink.full } } }

/-- The lines of `grep -A 1 b` with and without the file's name, and its counts with and without it. -/
theorem named_eq_piped_ragged :
    let m := keeping.machine
    (⟨m, pressed.directory⟩ : Site).read "f".toList = .ok ragged ∧
      pressed.chain m [Stage.quoted ["grep".toList, "-A".toList, "1".toList, "b".toList, "f".toList]] =
        pressed.chain m [Stage.quoted ["cat".toList, "f".toList],
          Stage.quoted ["grep".toList, "-A".toList, "1".toList, "b".toList]] ∧
      (pressed.chain m [Stage.quoted ["cat".toList, "f".toList],
          Stage.quoted ["grep".toList, "-A".toList, "1".toList, "b".toList]]).2.streams.sink.written =
        [98, 10, 97, 10] ∧
      (Wc.behaviour ⟨m, pressed.directory⟩ ["f".toList]).answer (.upstream [120]) =
        (⟨Wc.named "	3	3	9".toList "f".toList, 0⟩, .upstream [120]) := by
  intro m
  let grep : Grep := { pattern := "b".toList, after := 1 }
  have hread : (⟨m, pressed.directory⟩ : Site).read "f".toList = .ok ragged := rfl
  obtain ⟨-, hwc, -, -, hlines⟩ := named_eq_piped pressed m hread grep
  have hnamed : Grep.parse ["-A".toList, "1".toList, "b".toList, "f".toList] = .ok (grep.named "f".toList) := rfl
  have hunnamed : Grep.parse ["-A".toList, "1".toList, "b".toList] = .ok grep.unnamed := rfl
  have hfile : Cat.grammar.parse ["f".toList] = .ok ["f".toList] := rfl
  obtain ⟨hsearch, -⟩ := (hlines _ (Stage.calls_quoted _ hfile)).1 _ _ (Stage.calls_quoted _ hnamed)
    (Stage.calls_quoted _ hunnamed)
  exact ⟨hread, hsearch, by decide +kernel, hwc _⟩

end Session

end LineShell
