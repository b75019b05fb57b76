import LineShell.Host
import LineShell.Proofs.Decoding
import LineShell.Proofs.Requests

/-!
Commands with a list of files. The files are taken in order, and each contributes a chunk of its own:
what the command makes of its content, or one complaint that names it. No chunk knows of the other files,
and a file that cannot be read shows elsewhere only in the code. The loop over the files has one code and
one total, which it changes as it goes.

  - `visit_eq` / `visitAll_eq`: one file, and so all of them.
  - `Tour.step_holds` / `Tour.foldl_holds`: what the loop has after one more file, and at the end.
  - `visitAll_eq_tour` / `Wc.total_eq_tour`: the commands do what the loop does.
  - `Cat.chunk` / `Wc.chunk` / `Grep.chunk`: the chunk of a file, from what reading it gives.
  - `behaviour_files`: for each of the three, the chunks of all its files.
  - `files_in_order`: what the three commands write, and their code.
-/

namespace LineShell

namespace Builtin

/-- What a file contributes: what is made of its content, or one complaint. -/
def chunk (command : Text) (render : Bytes → Bytes) (file : Text) : Except FileError Bytes → Bytes
  | .ok data => render data
  | .error cause => Utf8.encode (command ++ ": ".toList ++ file ++ ": ".toList ++ cause.message ++ "\n".toList)

def Site.Unreadable (site : Site) (file : Text) : Prop := ∃ cause, site.read file = .error cause

instance (site : Site) (file : Text) : Decidable (site.Unreadable file) :=
  match h : site.read file with
  | .error cause => .isTrue ⟨cause, h⟩
  | .ok _ => .isFalse fun ⟨_, hcause⟩ => nomatch h.symm.trans hcause

/-- The code for a list of files: a failure if one of them cannot be read. -/
def Site.code (site : Site) (files : List Text) : Int := if ∃ file ∈ files, site.Unreadable file then 1 else 0

variable {site : Site} {command : Text} {render : Text → Bytes → Bytes}

theorem Site.code_cons (site : Site) (file : Text) (files : List Text) :
    site.code (file :: files) = if site.Unreadable file then 1 else site.code files := by
  by_cases h : site.Unreadable file
  · simp [code, h]
  · simp [code, h]

theorem Site.visit_eq (file : Text) :
    site.visit command render file =
      ⟨chunk command (render file) file (site.read file), if site.Unreadable file then 1 else 0⟩ := by
  unfold visit
  cases hread : site.read file with
  | ok data =>
    have hreadable : ¬ site.Unreadable file := fun ⟨_, hcause⟩ => nomatch hread.symm.trans hcause
    rw [if_neg hreadable]
    rfl
  | error cause =>
    rw [if_pos ⟨cause, hread⟩]
    rfl

/-- The chunks come in the order of the files, and one failure is enough. -/
theorem Site.visitAll_eq (files : List Text) :
    site.visitAll command render files =
      ⟨files.flatMap fun file => chunk command (render file) file (site.read file), site.code files⟩ := by
  induction files with
  | nil => rfl
  | cons file files ih =>
    have hall : site.visitAll command render (file :: files) =
        (site.visit command render file).andThen (site.visitAll command render files) := rfl
    rw [hall, ih, visit_eq, Reply.andThen, code_cons, List.flatMap_cons]
    by_cases h : site.Unreadable file
    · rw [if_pos h, if_pos h]
      rfl
    · rw [if_neg h, if_neg h, if_pos rfl]

/-! ## The loop -/

/-- Where the loop over the files is. -/
structure Tour where
  output : Bytes := []
  code : Int := 0
  /-- The counts of the files that could be read. -/
  total : Counts := {}

namespace Tour

variable (site : Site) (command : Text) (render : Text → Bytes → Bytes)

def step (tour : Tour) (file : Text) : Tour :=
  match site.read file with
  | .ok data => { tour with output := tour.output ++ render file data, total := tour.total.add (.ofBytes data) }
  | .error cause =>
    { tour with
      output := tour.output ++
        Utf8.encode (command ++ ": ".toList ++ file ++ ": ".toList ++ cause.message ++ "\n".toList)
      code := 1 }

def run (files : List Text) : Tour := files.foldl (step site command render) {}

/-- What the loop has when these files are done. -/
structure Holds (done : List Text) (tour : Tour) : Prop where
  output : tour.output = done.flatMap fun file => chunk command (render file) file (site.read file)
  code : tour.code = site.code done
  total : tour.total = Counts.sum ((done.filterMap fun file => (site.read file).toOption).map Counts.ofBytes)

end Tour

theorem Site.code_concat (site : Site) (files : List Text) (file : Text) :
    site.code (files ++ [file]) = if site.Unreadable file then 1 else site.code files := by
  by_cases h : site.Unreadable file
  · simp [code, h]
  · simp [code, h]

theorem Counts.sum_concat (counts : List Counts) (c : Counts) : sum (counts ++ [c]) = (sum counts).add c := by
  induction counts with
  | nil => simp [sum, add]
  | cons first counts ih =>
    have hsum : ∀ l, sum (first :: l) = first.add (sum l) := fun _ => rfl
    rw [List.cons_append, hsum, hsum, ih]
    simp only [add, Nat.add_assoc]

namespace Tour

theorem step_holds {done : List Text} {tour : Tour} (h : Holds site command render done tour) (file : Text) :
    Holds site command render (done ++ [file]) (tour.step site command render file) := by
  obtain ⟨houtput, hcode, htotal⟩ := h
  unfold step
  cases hread : site.read file with
  | ok data =>
    have hreadable : ¬ site.Unreadable file := fun ⟨_, hcause⟩ => nomatch hread.symm.trans hcause
    refine ⟨?_, ?_, ?_⟩
    · simp [houtput, chunk, hread]
    · rw [Site.code_concat, if_neg hreadable]
      exact hcode
    · simp [htotal, Counts.sum_concat, hread, Except.toOption]
  | error cause =>
    refine ⟨?_, ?_, ?_⟩
    · simp [houtput, chunk, hread]
    · rw [Site.code_concat, if_pos ⟨cause, hread⟩]
    · simp [htotal, hread, Except.toOption]

theorem foldl_holds (files : List Text) {done : List Text} {tour : Tour} (h : Holds site command render done tour) :
    Holds site command render (done ++ files) (files.foldl (step site command render) tour) := by
  induction files generalizing done tour with
  | nil => rwa [List.append_nil]
  | cons file files ih =>
    have hrest := ih (step_holds h file)
    rwa [List.append_assoc] at hrest

theorem run_holds (site : Site) (command : Text) (render : Text → Bytes → Bytes) (files : List Text) :
    Holds site command render files (run site command render files) := by
  have hstart : Holds site command render [] {} := ⟨rfl, rfl, rfl⟩
  exact foldl_holds files hstart

end Tour

/-- The files one by one, each with a reply of its own, are the loop. -/
theorem Site.visitAll_eq_tour (files : List Text) :
    site.visitAll command render files =
      ⟨(Tour.run site command render files).output, (Tour.run site command render files).code⟩ := by
  obtain ⟨houtput, hcode, -⟩ := Tour.run_holds site command render files
  rw [visitAll_eq, houtput, hcode]

theorem Wc.total_eq (site : Site) (files : List Text) :
    Wc.total site files = Counts.sum ((files.filterMap fun file => (site.read file).toOption).map Counts.ofBytes) := by
  rw [Wc.total, ← List.map_filterMap]

theorem Wc.total_eq_tour (files : List Text) : Wc.total site files = (Tour.run site command render files).total := by
  rw [Wc.total_eq, (Tour.run_holds site command render files).total]

/-! ## The three commands -/

def Cat.chunk (file : Text) : Except FileError Bytes → Bytes := Builtin.chunk Cat.name id file

/-- A line of `wc`: the three numbers, each after a tab, and what they are of. -/
def Wc.row (counts : Counts) (label : Text) : Text :=
  '\t' :: Nat.toDigits 10 counts.lines ++ '\t' :: Nat.toDigits 10 counts.words ++
    '\t' :: Nat.toDigits 10 counts.bytes ++ ' ' :: label ++ ['\n']

def Wc.chunk (file : Text) : Except FileError Bytes → Bytes :=
  Builtin.chunk Wc.name (fun data => Utf8.encode (row (Counts.ofBytes data) file)) file

/-- What `grep` prints of a file, which is named if there are several. -/
def Grep.chunk (after : Nat) (e : Pattern.Expr) (several : Bool) (file : Text) : Except FileError Bytes → Bytes :=
  Builtin.chunk Grep.name
    (fun data => Utf8.encode (select after e.isMatch (if several then file ++ [':'] else []) (Utf8.decode data))) file

theorem Wc.encode_totalLine (site : Site) (files : List Text) :
    Utf8.encode (totalLine site files) =
      if 2 ≤ files.length then Utf8.encode (row (total site files) "total".toList) else [] := by
  by_cases hseveral : 2 ≤ files.length
  · rw [if_pos hseveral, totalLine, if_pos (show files.length > 1 from hseveral)]
    rfl
  · rw [if_neg hseveral, totalLine, if_neg (show ¬ files.length > 1 from hseveral)]
    rfl

theorem Grep.chunk_eq (grep : Grep) (e : Pattern.Expr) (file : Text) :
    Builtin.chunk Grep.name (grep.output e (grep.label file)) file =
      Grep.chunk grep.after e (decide (2 ≤ grep.files.length)) file := by
  have hlabel : grep.label file = if decide (2 ≤ grep.files.length) then file ++ [':'] else [] := by
    simp only [Grep.label, decide_eq_true_eq]
    rfl
  rw [hlabel]
  rfl

/-- `cat` prints the chunks of its files. -/
theorem Cat.behaviour_files {files : List Text} (hne : files ≠ []) :
    Cat.behaviour site files =
      .prints ⟨files.flatMap fun file => Cat.chunk file (site.read file), site.code files⟩ := by
  rw [Cat.behaviour, Site.visitAll_eq]
  · rfl
  · exact hne

/-- `wc` prints the chunks of its files, and the line of their total. -/
theorem Wc.behaviour_files {files : List Text} (hne : files ≠ []) :
    Wc.behaviour site files =
      .prints ⟨(files.flatMap fun file => Wc.chunk file (site.read file)) ++ Utf8.encode (totalLine site files),
        site.code files⟩ := by
  rw [Wc.behaviour, Site.visitAll_eq]
  · rfl
  · exact hne

/-- `grep` prints the chunks of its files, if its pattern is one. -/
theorem Grep.behaviour_files {grep : Grep} {e : Pattern.Expr} (hne : grep.files ≠ [])
    (he : Pattern.compile grep.ignoreCase grep.patternText = .ok e) :
    grep.behaviour site =
      .prints ⟨grep.files.flatMap fun file =>
        Grep.chunk grep.after e (decide (2 ≤ grep.files.length)) file (site.read file), site.code grep.files⟩ := by
  rw [Grep.behaviour, he]
  simp only [Site.visitAll_eq, Grep.chunk_eq]

end Builtin

namespace Session

open Builtin

variable (s : Session) {m : Machine} {arguments : List Text}

/-- A built-in command, run by its name, does what its arguments mean. -/
theorem runAt_builtin {name : Text} {behave : List Text → Behaviour} (h : find? ⟨m, s.directory⟩ name = some behave)
    (p : Position) (arguments : List Text) : s.runAt m p name arguments = s.runBuiltin p (behave arguments) := by
  rw [runAt, h]

theorem runAt_ok {name : Text} {α : Type} {g : Options.Grammar α} {behave : α → Behaviour}
    (hfind : find? ⟨m, s.directory⟩ name = some (interpret g behave)) {a : α} (h : g.parse arguments = .ok a)
    (p : Position) : s.runAt m p name arguments = s.runBuiltin p (behave a) := by
  rw [runAt_builtin s hfind, interpret_ok h]

theorem runAt_grep {grep : Grep} (h : Grep.parse arguments = .ok grep) (p : Position) :
    s.runAt m p Grep.name arguments = s.runBuiltin p (grep.behaviour ⟨m, s.directory⟩) := by
  have hfind : find? ⟨m, s.directory⟩ Grep.name =
      some (interpret Grep.grammar fun draft => (Grep.ofDraft draft).behaviour ⟨m, s.directory⟩) := rfl
  rw [runAt_builtin s hfind, interpret_grep h]

/-- A list of files, whichever of them can be read. What `cat`, `wc` and `grep` write is one chunk for each
file, in order, and behind those of `wc` the line of the total if there are two files or more. A chunk is
made of the file's name and of what reading it gives, and for `grep` of the pattern, the number of lines
after a match and whether there are several files. A file that cannot be read gives one complaint and
adds nothing to the total, and the code is 1 exactly if there is such a file. So it is for the loop that
takes the files one by one, with one code and one total. -/
theorem files_in_order (s : Session) (m : Machine) {files : List Text} (hne : files ≠ []) :
    let site : Site := ⟨m, s.directory⟩
    let code : Int := if ∃ file ∈ files, site.Unreadable file then 1 else 0
    let contents := files.filterMap fun file => (site.read file).toOption
    let total := Counts.sum (contents.map Counts.ofBytes)
    (∀ p arguments, Cat.grammar.parse arguments = .ok files →
      s.runAt m p Cat.name arguments =
        s.deliver p (files.flatMap fun file => Cat.chunk file (site.read file)) code) ∧
      (∀ p arguments, Wc.grammar.parse arguments = .ok files →
        s.runAt m p Wc.name arguments =
          s.deliver p ((files.flatMap fun file => Wc.chunk file (site.read file)) ++
            if 2 ≤ files.length then Utf8.encode (Wc.row total "total".toList) else []) code) ∧
      (∀ p arguments grep e, Grep.parse arguments = .ok grep → grep.files = files →
        Pattern.compile grep.ignoreCase grep.patternText = .ok e →
          s.runAt m p Grep.name arguments =
            s.deliver p (files.flatMap fun file =>
              Grep.chunk grep.after e (decide (2 ≤ files.length)) file (site.read file)) code) ∧
      ∀ command render,
        let tour := Tour.run site command render files
        tour = ⟨files.flatMap fun file => chunk command (render file) file (site.read file), code, total⟩ ∧
          site.visitAll command render files = ⟨tour.output, tour.code⟩ ∧ Wc.total site files = tour.total := by
  intro site code contents total
  have htotal : Wc.total site files = total := Wc.total_eq site files
  refine ⟨fun p arguments hparse => ?_, fun p arguments hparse => ?_, fun p arguments grep e hparse hfiles he => ?_,
    fun command render => ?_⟩
  · rw [s.runAt_ok rfl hparse, Cat.behaviour_files hne]
    rfl
  · rw [s.runAt_ok rfl hparse, Wc.behaviour_files hne, Wc.encode_totalLine, htotal]
    rfl
  · subst hfiles
    rw [s.runAt_grep hparse, Grep.behaviour_files hne he]
    rfl
  · obtain ⟨houtput, hcode, hsum⟩ := Tour.run_holds site command render files
    refine ⟨?_, Site.visitAll_eq_tour files, Wc.total_eq_tour files⟩
    rw [← houtput, show total = _ from hsum.symm]
    exact congrArg (Tour.mk _ · _) hcode

def mixed : Host :=
  { tree := (({} : Host.Tree).add (Host.location "/d") .directory).add (Host.location "/f") (.file [98, 10, 97] false) }

/-- The directory, the file, a file that is not there, and the first file again. -/
theorem files_in_order_mixed :
    let m := mixed.machine
    let files := ["d".toList, "f".toList, "x".toList, "f".toList]
    let shows (answer : Answer Int) (printed : String) : Prop :=
      answer.1 = .ok 1 ∧ answer.2.streams.sink.written = printed.toUTF8.data.toList
    files ≠ [] ∧ Cat.grammar.parse files = .ok files ∧ Wc.grammar.parse files = .ok files ∧
      Grep.parse ("a".toList :: files) = .ok { pattern := "a".toList, files } ∧
      Pattern.compile false "a".toList = .ok (.char 'a') ∧
      shows (({} : Session).run m Cat.name files)
        "cat: d: Is a directory (os error 21)\nb\nacat: x: No such file or directory (os error 2)\nb\na" ∧
      shows (({} : Session).run m Wc.name files)
        ("wc: d: Is a directory (os error 21)\n\t2\t2\t3 f\n" ++
          "wc: x: No such file or directory (os error 2)\n\t2\t2\t3 f\n\t4\t4\t6 total\n") ∧
      shows (({} : Session).run m Grep.name ("a".toList :: files))
        "grep: d: Is a directory (os error 21)\nf:a\ngrep: x: No such file or directory (os error 2)\nf:a\n" ∧
      (Tour.run ⟨m, Path.here⟩ Wc.name (fun _ data => data) files).total = ⟨4, 4, 6⟩ := by
  intro m files shows
  have hne : files ≠ [] := List.cons_ne_nil _ _
  let grep : Grep := { pattern := "a".toList, files }
  have hparse : Grep.parse ("a".toList :: files) = .ok grep := rfl
  have hcompile : Pattern.compile false "a".toList = .ok (.char 'a') := by decide
  obtain ⟨hcat, hwc, hgrep, hloop⟩ := files_in_order {} m hne
  refine ⟨hne, rfl, rfl, hparse, hcompile, ?_, ?_, ?_, ?_⟩
  · have hrun := hcat .alone files rfl
    rw [run, hrun]
    exact ⟨by decide +kernel, by decide +kernel⟩
  · have hrun := hwc .alone files rfl
    rw [run, hrun]
    exact ⟨by decide +kernel, by decide +kernel⟩
  · have hrun := hgrep .alone _ grep _ hparse rfl hcompile
    rw [run, hrun]
    exact ⟨by decide +kernel, by decide +kernel⟩
  · have htour := hloop Wc.name fun _ data => data
    rw [show (⟨m, Path.here⟩ : Site) = ⟨m, ({} : Session).directory⟩ from rfl, htour.1]
    decide +kernel

end Session

end LineShell
