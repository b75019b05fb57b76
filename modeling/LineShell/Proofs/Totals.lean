import LineShell.Proofs.Lines
import LineShell.Proofs.NamedFiles

/-!
The total of `wc`. Lines, words and bytes are counted in decoded text, and text may be cut behind a newline
without any of the three counts changing. So where files have no incomplete last line, counting them one
by one and adding up is counting what `cat` makes of them.

  - `Counts.ofBytes_append`: bytes that end with a newline, and more behind them, are counted on their own.
  - `Counts.ofBytes_flatMap`: so are any number of files.
  - `Wc.answer_files`: what `wc` prints of files that can be read, line by line.
  - `total_of_files`: the last of these lines, and what the counts of the concatenation are.
-/

namespace LineShell

namespace Text

/-- The last of lines that were printed is read back, whatever the lines before it hold. -/
theorem getLast?_lines_ofLines (before : List Text) {line : Text} (h : '\n' ∉ line) :
    (lines (ofLines (before ++ [line]))).getLast? = some (chomp line) := by
  induction before with
  | nil =>
    have hline : lines (ofLines [line]) = [chomp line] := by
      rw [ofLines_cons, lines_line h]
      rfl
    rw [List.nil_append, hline]
    rfl
  | cons first before ih =>
    rw [List.cons_append, ofLines_cons, lines_append, List.getLast?_append, ih]
    rfl

end Text

namespace Builtin

namespace Counts

/-- Behind a newline a text may be cut. -/
theorem ofText_append (a b : Text) : ofText (a ++ '\n' :: b) = (ofText (a ++ ['\n'])).add (ofText b) := by
  have hblank : Text.isBlank '\n' = true := by decide
  have hlines := Text.lines_append a b
  have hfields := Text.fields_append hblank a b
  have hfirst : Text.fields (a ++ ['\n']) = Text.fields a := by
    rw [Text.fields_append hblank a []]
    exact List.append_nil _
  have hbytes : Utf8.encode (a ++ '\n' :: b) = Utf8.encode (a ++ ['\n']) ++ Utf8.encode b := by
    rw [← Utf8.encode_append, List.append_assoc]
    rfl
  unfold ofText add
  rw [hlines, hfields, hfirst, hbytes, List.length_append, List.length_append, List.length_append]

theorem zero_add (c : Counts) : ({} : Counts).add c = c := by
  unfold add
  simp only [Nat.zero_add]

/-- Bytes that end with a newline are counted on their own. -/
theorem ofBytes_append {a : Bytes} (h : Utf8.Complete a) (b : Bytes) :
    ofBytes (a ++ b) = (ofBytes a).add (ofBytes b) := by
  unfold ofBytes
  rw [Utf8.decode_append h]
  rcases Utf8.complete_cases h with rfl | ⟨a, rfl⟩
  · exact (zero_add _).symm
  · have hline : Utf8.decode (a ++ [Utf8.newline]) = Utf8.decode a ++ ['\n'] := Utf8.decode_append_newline a []
    rw [hline, ← ofText_append, List.append_assoc]
    rfl

/-- Any number of them are counted one by one. -/
theorem ofBytes_flatMap {α : Type} (content : α → Bytes) (files : List α)
    (h : ∀ file ∈ files, Utf8.Complete (content file)) :
    ofBytes (files.flatMap content) = sum (files.map fun file => ofBytes (content file)) := by
  induction files with
  | nil => rfl
  | cons file files ih =>
    have hrest := ih fun f hf => h f (List.mem_cons_of_mem _ hf)
    rw [List.flatMap_cons, ofBytes_append (h file List.mem_cons_self), hrest]
    rfl

/-- One of the three numbers, added up. -/
def sumOf (number : Counts → Nat) (counts : List Counts) : Nat := counts.foldr (fun c n => number c + n) 0

/-- The three numbers of a sum are the sums of the three numbers. -/
theorem sum_eq (counts : List Counts) :
    sum counts = ⟨sumOf Counts.lines counts, sumOf Counts.words counts, sumOf Counts.bytes counts⟩ := by
  induction counts with
  | nil => rfl
  | cons c counts ih =>
    have hsum : sum (c :: counts) = c.add (sum counts) := rfl
    rw [hsum, ih]
    rfl

theorem newline_notMem_text (c : Counts) : '\n' ∉ c.text := by
  have hdigits : ∀ n, '\n' ∉ Text.ofNat n := by
    intro n hmem
    have hdigit := Nat.isDigit_of_mem_toDigits (by decide) (by decide) hmem
    exact absurd hdigit (by decide)
  simp [text, hdigits]

end Counts

variable {site : Site} {files : List Text}

namespace Wc

def line (counts : Counts) (label : Text) : Text := counts.text ++ ' ' :: label

def counted (site : Site) (file : Text) : Counts := Counts.ofBytes (site.content file)

theorem labelled_eq (counts : Counts) (label : Text) : labelled counts label = line counts label ++ ['\n'] := rfl

theorem flatMap_labelled (site : Site) (files : List Text) :
    (files.flatMap fun file => Utf8.encode (labelled (counted site file) file)) =
      Utf8.encode (Text.ofLines (files.map fun file => line (counted site file) file)) := by
  induction files with
  | nil => rfl
  | cons file files ih =>
    rw [List.flatMap_cons, ih, ← Utf8.encode_append, List.map_cons, Text.ofLines_cons, labelled_eq, List.append_assoc]
    rfl

theorem total_readable (h : ∀ file ∈ files, ∃ data, site.read file = .ok data) :
    total site files = Counts.sum (files.map (counted site)) := by
  have hread : (files.filterMap fun file => (site.read file).toOption.map Counts.ofBytes) =
      files.map (counted site) := by
    rw [← List.filterMap_eq_map]
    refine List.filterMap_congr fun file hfile => ?_
    obtain ⟨data, hdata⟩ := h file hfile
    rw [Function.comp_apply, counted, Site.content_of_read hdata, hdata]
    rfl
  rw [total, hread]

/-- The lines of several files that can be read, and the line of their total. -/
theorem answer_files (hlen : 2 ≤ files.length) (h : ∀ file ∈ files, ∃ data, site.read file = .ok data)
    (input : Input) :
    (Wc.behaviour site files).answer input =
      (⟨Utf8.encode (Text.ofLines ((files.map fun file => line (counted site file) file) ++
        [line (Counts.sum (files.map (counted site))) "total".toList])), 0⟩, input) := by
  have htotal : totalLine site files = labelled (Counts.sum (files.map (counted site))) "total".toList := by
    rw [totalLine, if_pos (show files.length > 1 from hlen), total_readable h]
  have hchunks := Site.visitAll_readable Wc.name (fun f d => Utf8.encode (labelled (Counts.ofBytes d) f)) h
  have hlines := flatMap_labelled site files
  obtain ⟨file, rest, rfl⟩ := List.exists_cons_of_ne_nil (List.ne_nil_of_length_pos (Nat.zero_lt_of_lt hlen))
  rw [Wc.behaviour]
  · rw [hchunks, Behaviour.answer, htotal, Text.ofLines_concat, Utf8.encode_append, ← hlines]
    rfl
  · exact List.cons_ne_nil _ _

/-- The line of the total is read back as it was printed. -/
theorem getLast?_total (before : List Text) (counts : Counts) :
    (Text.lines (Text.ofLines (before ++ [line counts "total".toList]))).getLast? =
      some (line counts "total".toList) := by
  have hline : '\n' ∉ line counts "total".toList := by
    simp [line, Counts.newline_notMem_text]
  have hkept : Text.chomp (line counts "total".toList) = line counts "total".toList :=
    Text.chomp_of_ne (by simp [line])
  rw [Text.getLast?_lines_ofLines before hline, hkept]

end Wc

end Builtin

namespace Session

open Builtin

/-- Two files or more, all of which can be read, none with an incomplete last line: the last line that
`wc` prints of them is that of the total, whose three numbers, each after a tab, are those that it prints of
what `cat` makes of the same files, and the sums of the numbers of each file. -/
theorem total_of_files (s : Session) (m : Machine) {files : List Text} (hlen : 2 ≤ files.length)
    (hread : ∀ file ∈ files, ∃ data, (⟨m, s.directory⟩ : Site).read file = .ok data ∧ Utf8.Complete data) :
    let site : Site := ⟨m, s.directory⟩
    let each := files.map (Wc.counted site)
    let numbers := '\t' :: Nat.toDigits 10 (Counts.sumOf Counts.lines each) ++
      '\t' :: Nat.toDigits 10 (Counts.sumOf Counts.words each) ++ '\t' :: Nat.toDigits 10 (Counts.sumOf Counts.bytes each)
    ∃ printed,
      (∀ input, (Wc.behaviour site files).answer input = (⟨printed, 0⟩, input)) ∧
      (Text.lines (Utf8.decode printed)).getLast? = some (numbers ++ " total".toList) ∧
      (∀ input, (Cat.behaviour site files).answer input = (⟨files.flatMap site.content, 0⟩, input)) ∧
      (Wc.behaviour site []).answer (.upstream (files.flatMap site.content)) =
        (⟨Utf8.encode (numbers ++ ['\n']), 0⟩, .upstream []) ∧
      ∀ count copy tally : Stage, count.IsWc files → copy.IsCat files → tally.IsWc [] →
        s.chain m [count] = s.printing printed ∧
          s.chain m [copy, tally] = s.printing (Utf8.encode (numbers ++ ['\n'])) := by
  intro site each numbers
  have hreadable : ∀ file ∈ files, ∃ data, site.read file = .ok data := by
    intro file hfile
    obtain ⟨data, hdata, -⟩ := hread file hfile
    exact ⟨data, hdata⟩
  have hcomplete : ∀ file ∈ files, Utf8.Complete (site.content file) := by
    intro file hfile
    obtain ⟨data, hdata, hcomplete⟩ := hread file hfile
    rwa [Site.content_of_read hdata]
  have hne : files ≠ [] := List.ne_nil_of_length_pos (Nat.lt_of_lt_of_le Nat.zero_lt_two hlen)
  let counts : Counts :=
    ⟨Counts.sumOf Counts.lines each, Counts.sumOf Counts.words each, Counts.sumOf Counts.bytes each⟩
  have hsum : Counts.sum each = counts := Counts.sum_eq each
  have hconcatenated : Counts.ofBytes (files.flatMap site.content) = counts :=
    (Counts.ofBytes_flatMap site.content files hcomplete).trans hsum
  have hwc := Wc.answer_files hlen hreadable
  have hcat := answer_cat hne hreadable
  have htally := wc_unnamed site (files.flatMap site.content)
  rw [hconcatenated] at htally
  refine ⟨_, hwc, ?_, hcat, htally, fun count copy tally hcount hcopy htallies => ⟨?_, ?_⟩⟩
  · rw [Utf8.decode_encode, hsum, Wc.getLast?_total]
    rfl
  · exact s.chain_alone (hcount.behaves site) hwc
  · have hcopied : (Cat.behaviour site files).filter s.streams.pipe.output = files.flatMap site.content := by
      rw [Behaviour.filter, hcat]
    rw [s.chain_pair (hcopy.behaves site) (htallies.behaves site), hcopied, Behaviour.filter, htally]
    rfl

/-- A character cut off before a newline, a carriage return at the start of a file, a blank of two octets,
and an empty file. -/
def cutting : Host :=
  { tree := ((({} : Host.Tree).add (Host.location "/f") (.file [97, 0xE2, 0x82, 10] false)).add
      (Host.location "/g") (.file [13, 10, 98, 0xC2, 0x85, 99, 10] false)).add
      (Host.location "/h") (.file [] false) }

theorem total_of_files_cutting :
    let m := cutting.machine
    let files := ["f".toList, "g".toList, "h".toList, "f".toList]
    let count := Stage.quoted ("wc".toList :: files)
    let copy := Stage.quoted ("cat".toList :: files)
    let tally := Stage.quoted ["wc".toList]
    2 ≤ files.length ∧
      (∀ file ∈ files, ∃ data, (⟨m, Path.here⟩ : Site).read file = .ok data ∧ Utf8.Complete data) ∧
      count.IsWc files ∧ copy.IsCat files ∧ tally.IsWc [] ∧
      (({} : Session).chain m [count]).2.streams.sink.written =
        "\t1\t1\t5 f\n\t2\t2\t7 g\n\t0\t0\t0 h\n\t1\t1\t5 f\n\t4\t4\t17 total\n".toUTF8.data.toList ∧
      (({} : Session).chain m [copy, tally]).2.streams.sink.written = "\t4\t4\t17\n".toUTF8.data.toList := by
  intro m files count copy tally
  have hread : ∀ file ∈ files, ∃ data, (⟨m, Path.here⟩ : Site).read file = .ok data ∧ Utf8.Complete data := by
    simp only [files, List.forall_mem_cons]
    refine ⟨⟨_, rfl, by decide⟩, ⟨_, rfl, by decide⟩, ⟨_, rfl, by decide⟩, ⟨_, rfl, by decide⟩, ?_⟩
    intro file hnil
    exact absurd hnil List.not_mem_nil
  have hcount : count.IsWc files := Stage.calls_quoted _ rfl
  have hcopy : copy.IsCat files := Stage.calls_quoted _ rfl
  have htally : tally.IsWc [] := Stage.calls_quoted _ rfl
  obtain ⟨printed, hwc, -, -, -, hchains⟩ := total_of_files {} cutting.machine (by decide) hread
  obtain ⟨halone, hpiped⟩ := hchains count copy tally hcount hcopy htally
  refine ⟨by decide, hread, hcount, hcopy, htally, ?_, ?_⟩
  · have hprinted := congrArg (fun answer => answer.1.output) (hwc (.upstream []))
    rw [halone, ← show _ = printed from hprinted]
    decide +kernel
  · rw [hpiped]
    decide +kernel

end Session

end LineShell
