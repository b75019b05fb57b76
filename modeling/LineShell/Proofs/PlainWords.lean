import LineShell.Proofs.Arguments
import LineShell.Proofs.Chunks

/-!
Words that do not start with a hyphen. They are data, all but one: while options are still read, `help` asks
for the usage text. Most commands read options up to their first word; `grep` reads them up to its second.

  - `parseFrom_plain`: such a word is taken.
  - `parseFrom_asked` / `parse_help`: once the usage text has been asked for, no such word takes that back.
  - `Greedy.parse_plain` / `Grep.parse_plain`: what a list of such words is read as.
  - `plain_words_taken`: what the commands do with it.
-/

namespace LineShell

namespace Options

def Plain (word : Text) : Prop := word.head? ≠ some '-'

instance : DecidablePred Plain := fun word => inferInstanceAs (Decidable (word.head? ≠ some '-'))

variable {α : Type} {g : Grammar α} {take : α → Text → α} {state : State α} {first word : Text} {rest words : List Text}

theorem isHelp_of_plain (hplain : Plain word) (hhelp : word ≠ "help".toList) : isHelp word = false := by
  have hdashes : word ≠ "--help".toList := by
    rintro rfl
    exact hplain rfl
  rw [isHelp, beq_false_of_ne hhelp, beq_false_of_ne hdashes, Bool.or_self]

namespace Grammar

/-- The word `help` is taken for the request, wherever options are read. -/
theorem parseFrom_help (hended : state.ended = false) (rest : List Text) :
    g.parseFrom state ("help".toList :: rest) = g.parseFrom { state with help := true } rest := by
  have hhelp : isHelp "help".toList = true := by decide
  rw [parseFrom.eq_def]
  simp only [hended, hhelp, Bool.not_false, Bool.and_self, if_true]

/-- Any other word without a hyphen is taken, wherever it stands. -/
theorem parseFrom_plain (hplain : Plain word) (hhelp : word ≠ "help".toList) {value : α} {ends : Bool}
    (hword : g.positional state.value word = some (value, ends)) (rest : List Text) :
    g.parseFrom state (word :: rest) = g.parseFrom { state with value, ended := state.ended || ends } rest :=
  parseFrom_taken (fun _ => ⟨isHelp_of_plain hplain hhelp, hplain⟩) hword rest

/-- Once the usage text has been asked for, words without a hyphen do not take that back. -/
theorem parseFrom_asked (htake : g.Takes take) (hasked : state.help = true) (hplain : ∀ word ∈ words, Plain word) :
    g.parseFrom state words = .error .help := by
  induction words generalizing state with
  | nil => exact if_pos hasked
  | cons word words ih =>
    have hrest : ∀ w ∈ words, Plain w := fun w hw => hplain w (List.mem_cons_of_mem word hw)
    obtain ⟨ends, hword⟩ := htake state.value word
    by_cases hagain : state.ended = false ∧ word = "help".toList
    · obtain ⟨hended, rfl⟩ := hagain
      rw [parseFrom_help hended]
      exact ih rfl hrest
    · have hdata : state.ended = false → isHelp word = false ∧ Plain word := fun hended =>
        have hword := hplain word List.mem_cons_self
        ⟨isHelp_of_plain hword fun hhelp => hagain ⟨hended, hhelp⟩, hword⟩
      rw [parseFrom_taken hdata hword]
      exact ih hasked hrest

theorem parse_help (htake : g.Takes take) (hplain : ∀ word ∈ rest, Plain word) :
    g.parse ("help".toList :: rest) = .error .help := by
  rw [parse, parseFrom_help rfl]
  exact parseFrom_asked htake rfl hplain

/-- Behind a first word that is data, all words are data. -/
theorem Greedy.parse_plain (h : g.Greedy take) (hplain : Plain first) (hhelp : first ≠ "help".toList)
    (rest : List Text) :
    g.parse (first :: rest) = g.finish { value := (first :: rest).foldl take g.start, ended := true } := by
  rw [parse, parseFrom_plain hplain hhelp (h g.start first), Bool.false_or]
  exact parseFrom_data h.takes rfl rest

end Grammar

end Options

/-! ## The commands -/

namespace Builtin

open Options

variable {α : Type} {g : Grammar α} {behave : α → Behaviour} {first : Text} {rest words : List Text}

theorem wordsGrammar_greedy (usage : Usage) : (wordsGrammar usage).Greedy fun words word => words ++ [word] :=
  fun _ _ => rfl

theorem wordsGrammar_plain (usage : Usage) (hplain : Plain first) (hhelp : first ≠ "help".toList) (rest : List Text) :
    (wordsGrammar usage).parse (first :: rest) = .ok (first :: rest) := by
  have hall : (first :: rest).foldl (fun words word => words ++ [word]) [] = first :: rest := by
    rw [List.foldl_append_eq_append, List.nil_append]
    exact List.flatMap_singleton' _
  rw [(wordsGrammar_greedy usage).parse_plain hplain hhelp]
  show Except.ok ((first :: rest).foldl (fun words word => words ++ [word]) []) = _
  rw [hall]

theorem Echo.parse_plain (hplain : Plain first) (hhelp : first ≠ "help".toList) (rest : List Text) :
    Echo.grammar.parse (first :: rest) = .ok { words := first :: rest } := by
  rw [Echo.greedy.parse_plain hplain hhelp, Echo.foldl_take]
  rfl

/-- The first word of `grep` is its pattern, and options are read on. -/
theorem Grep.parse_pattern (hplain : Plain first) (hhelp : first ≠ "help".toList) (rest : List Text) :
    grammar.parse (first :: rest) = grammar.parseFrom { value := { pattern := some first } } rest :=
  Grammar.parseFrom_plain hplain hhelp rfl rest

/-- `grep` reads options up to its second word. If neither of the two is `help`, they are the pattern and the
first of the files. -/
theorem Grep.parse_plain (hplain : ∀ word ∈ first :: rest, Plain word) (hhelp : "help".toList ∉ (first :: rest).take 2) :
    Grep.parse (first :: rest) = .ok { pattern := first, files := rest } := by
  have hfirst : first ≠ "help".toList := by
    rintro rfl
    exact hhelp List.mem_cons_self
  rw [parse, parse_pattern (hplain first List.mem_cons_self) hfirst]
  cases rest with
  | nil => rfl
  | cons second rest =>
    have hsecond : second ≠ "help".toList := by
      rintro rfl
      exact hhelp (List.mem_cons_of_mem _ List.mem_cons_self)
    have hfile : second ∈ first :: second :: rest := List.mem_cons_of_mem _ List.mem_cons_self
    rw [Grammar.parseFrom_plain (hplain second hfile) hsecond rfl, Grammar.parseFrom_data takes rfl, foldl_take rfl]
    rfl

/-- If one of the two is, it asks for the usage text. -/
theorem Grep.parse_help (hplain : ∀ word ∈ first :: rest, Plain word) (hhelp : "help".toList ∈ (first :: rest).take 2) :
    Grep.grammar.parse (first :: rest) = .error .help := by
  by_cases hfirst : first = "help".toList
  · subst hfirst
    exact Grammar.parse_help takes fun word hword => hplain word (List.mem_cons_of_mem _ hword)
  · cases rest with
    | nil => exact absurd (List.mem_singleton.mp hhelp).symm hfirst
    | cons second rest =>
      obtain rfl : "help".toList = second :=
        List.mem_singleton.mp ((List.mem_cons.mp hhelp).resolve_left fun h => hfirst h.symm)
      rw [parse_pattern (hplain first List.mem_cons_self) hfirst, Grammar.parseFrom_help rfl]
      exact Grammar.parseFrom_asked takes rfl fun word hword =>
        hplain word (List.mem_cons_of_mem _ (List.mem_cons_of_mem _ hword))

def usages : List (Text × Text) :=
  [(Echo.name, Echo.grammar.usage), (Pwd.name, Pwd.grammar.usage), (Exit.name, Exit.grammar.usage),
    (Cat.name, Cat.grammar.usage), (Wc.name, Wc.grammar.usage), (Grep.name, Grep.grammar.usage)]

/-- How many words a command reads as options if they look like them. -/
def leading (name : Text) : Nat := if name = Grep.name then 2 else 1

theorem interpret_help (h : g.parse words = .error .help) :
    interpret g behave words = .prints ⟨Utf8.encode (Text.endLine g.usage), 0⟩ := by
  rw [interpret, h]
  rfl

/-- A command whose first words ask for its usage text prints that. -/
theorem find?_help (site : Site) {name usage : Text} (hname : (name, usage) ∈ usages)
    (hplain : ∀ word ∈ first :: rest, Plain word) (hhelp : "help".toList ∈ (first :: rest).take (leading name)) :
    ∃ behave, find? site name = some behave ∧
      behave (first :: rest) = .prints ⟨Utf8.encode (Text.endLine usage), 0⟩ := by
  have hgreedy : ∀ {α : Type} {g : Grammar α} {take : α → Text → α}, g.Greedy take →
      "help".toList ∈ (first :: rest).take 1 → g.parse (first :: rest) = .error .help := by
    intro α g take h hfirst
    obtain rfl : "help".toList = first := List.mem_singleton.mp hfirst
    exact Grammar.parse_help h.takes fun word hword => hplain word (List.mem_cons_of_mem _ hword)
  simp only [usages, List.mem_cons, List.not_mem_nil, or_false, Prod.mk.injEq] at hname
  rcases hname with ⟨rfl, rfl⟩ | ⟨rfl, rfl⟩ | ⟨rfl, rfl⟩ | ⟨rfl, rfl⟩ | ⟨rfl, rfl⟩ | ⟨rfl, rfl⟩
  · exact ⟨_, rfl, interpret_help (hgreedy Echo.greedy hhelp)⟩
  · exact ⟨_, rfl, interpret_help (hgreedy (wordsGrammar_greedy _) hhelp)⟩
  · exact ⟨_, rfl, interpret_help (hgreedy (wordsGrammar_greedy _) hhelp)⟩
  · exact ⟨_, rfl, interpret_help (hgreedy (wordsGrammar_greedy _) hhelp)⟩
  · exact ⟨_, rfl, interpret_help (hgreedy (wordsGrammar_greedy _) hhelp)⟩
  · exact ⟨_, rfl, interpret_help (Grep.parse_help hplain hhelp)⟩

end Builtin

namespace Session

open Builtin Options

/-- A list of words of which none starts with a hyphen. If the first one is not `help`, then `echo` prints
them all, to `cat` and `wc` they are all files, and `exit` ends the session, also in a line that reaches it.
If neither of the first two is `help`, then the first one is the pattern of `grep` and the others are its
files. Otherwise the command prints its usage text and does nothing else. -/
theorem plain_words_taken (s : Session) (m : Machine) {first : Text} {rest : List Text}
    (hplain : ∀ word ∈ first :: rest, Plain word) :
    let site : Site := ⟨m, s.directory⟩
    let words := first :: rest
    (first ≠ "help".toList →
      (∀ p, s.runAt m p Echo.name words = s.deliver p (Utf8.encode (Text.join [' '] words ++ ['\n'])) 0) ∧
      (∀ p, s.runAt m p Cat.name words =
        s.deliver p (words.flatMap fun file => Cat.chunk file (site.read file)) (site.code words)) ∧
      (∀ p, s.runAt m p Wc.name words =
        s.deliver p ((words.flatMap fun file => Wc.chunk file (site.read file)) ++
          Utf8.encode (Wc.totalLine site words)) (site.code words)) ∧
      (∀ p, s.runAt m p Exit.name words = s.deliver p [] Signal.exitCode) ∧
      ∀ stages index stage, stages[index]? = some stage → index ≤ s.completed m stages →
        Command.ofStage stage = .call (Exit.name :: words) → (s.chain m stages).1 = .ok .exit) ∧
    ("help".toList ∉ words.take 2 →
      ∀ p, s.runAt m p Grep.name words =
        s.runBuiltin p (({ pattern := first, files := rest } : Grep).behaviour site)) ∧
    ∀ name usage, (name, usage) ∈ usages → "help".toList ∈ words.take (leading name) →
      ∀ p, s.runAt m p name words = s.deliver p (Utf8.encode (Text.endLine usage)) 0 := by
  intro site words
  have hfirst : Plain first := hplain first List.mem_cons_self
  have hkept : first ≠ "help".toList → ∀ usage, (wordsGrammar usage).parse words = .ok words := fun hhelp usage =>
    wordsGrammar_plain usage hfirst hhelp rest
  refine ⟨fun hhelp => ⟨fun p => ?_, fun p => ?_, fun p => ?_, fun p => ?_, ?_⟩, fun hhelp p => ?_, ?_⟩
  · rw [s.runAt_ok rfl (Echo.parse_plain hfirst hhelp rest)]
    rfl
  · have hparse : Cat.grammar.parse words = .ok words := hkept hhelp _
    rw [s.runAt_ok rfl hparse, Cat.behaviour_files (List.cons_ne_nil first rest)]
    rfl
  · have hparse : Wc.grammar.parse words = .ok words := hkept hhelp _
    rw [s.runAt_ok rfl hparse, Wc.behaviour_files (List.cons_ne_nil first rest)]
    rfl
  · have hparse : Exit.grammar.parse words = .ok words := hkept hhelp _
    rw [s.runAt_ok rfl hparse]
    rfl
  · intro stages index stage hstage hreached hcall
    exact chain_exit_iff.mpr ⟨index, stage, words, hstage, hreached, hcall, words, hkept hhelp _⟩
  · exact s.runAt_grep (Grep.parse_plain hplain hhelp) p
  · intro name usage hname hhelp p
    obtain ⟨behave, hfind, hprints⟩ := find?_help site hname hplain hhelp
    rw [runAt_builtin s hfind, hprints]
    rfl

def lined : Host := { tree := ({} : Host.Tree).add (Host.location "/f") (.file [97, 10] false) }

/-- Where `help` stands second, it is a file to `cat` and a word to `echo`, and a request to `grep`. Where it
stands first, it is a request to `exit`, too. -/
theorem plain_words_taken_second :
    let m := lined.machine
    let words := ["f".toList, "help".toList]
    (∀ word ∈ words, Plain word) ∧
      ({} : Session).run m Echo.name words = ({} : Session).deliver .alone (Utf8.encode "f help\n".toList) 0 ∧
      ({} : Session).run m Cat.name words = ({} : Session).deliver .alone
        (Utf8.encode ("a\n".toList ++ complaint Cat.name "help".toList .notFound)) 1 ∧
      (({} : Session).chain m [Stage.quoted (Exit.name :: words)]).1 = .ok .exit ∧
      ({} : Session).run m Grep.name words =
        ({} : Session).deliver .alone (Utf8.encode (Text.endLine Grep.grammar.usage)) 0 ∧
      ({} : Session).run m Grep.name ["f".toList, "f".toList] =
        ({} : Session).runBuiltin .alone
          (({ pattern := "f".toList, files := ["f".toList] } : Grep).behaviour ⟨m, ({} : Session).directory⟩) ∧
      ({} : Session).run m Exit.name ["help".toList] =
        ({} : Session).deliver .alone (Utf8.encode (Text.endLine Exit.grammar.usage)) 0 := by
  intro m words
  let site : Site := ⟨m, ({} : Session).directory⟩
  have hplain : ∀ word ∈ words, Plain word := by decide
  have hgrepUsage : (Grep.name, Grep.grammar.usage) ∈ usages := by simp [usages]
  have hexitUsage : (Exit.name, Exit.grammar.usage) ∈ usages := by simp [usages]
  have hf : site.read "f".toList = .ok [97, 10] := rfl
  have hmissing : site.read "help".toList = .error .notFound := rfl
  have hcode : site.code words = 1 := if_pos ⟨"help".toList, by decide, .notFound, hmissing⟩
  have hline : ([97, 10] : Bytes) = Utf8.encode "a\n".toList := by decide
  have hchunks : (words.flatMap fun file => Cat.chunk file (site.read file)) =
      Utf8.encode ("a\n".toList ++ complaint Cat.name "help".toList .notFound) := by
    simp only [words, List.flatMap_cons, List.flatMap_nil, List.append_nil, hf, hmissing, Utf8.encode_append, ← hline]
    rfl
  obtain ⟨hdata, -, hasked⟩ := plain_words_taken {} m hplain
  obtain ⟨hecho, hcat, -, -, hexit⟩ := hdata (by decide)
  obtain ⟨-, hgrep, -⟩ := plain_words_taken {} m (show ∀ word ∈ ["f".toList, "f".toList], Plain word by decide)
  obtain ⟨-, -, hhelp⟩ := plain_words_taken {} m (show ∀ word ∈ ["help".toList], Plain word by decide)
  refine ⟨hplain, hecho .alone, (hcat .alone).trans ?_, ?_, hasked _ _ hgrepUsage (by decide) .alone,
    hgrep (by decide) .alone, hhelp _ _ hexitUsage (by decide) .alone⟩
  · show ({} : Session).deliver .alone (words.flatMap fun file => Cat.chunk file (site.read file)) (site.code words) = _
    rw [hchunks, hcode]
  · exact hexit _ 0 _ rfl (Nat.zero_le _) (Command.ofStage_quoted Exit.name words).2

/-- The word `help` does not start with a hyphen. Given to `echo` it is not printed, and given to `exit` it
does not end the session. -/
theorem help_not_data :
    let m := ({} : Host).machine
    let leave : Stage := Stage.quoted [Exit.name, "help".toList]
    Plain "help".toList ∧
      (({} : Session).run m Echo.name ["help".toList]).2.streams.sink.written ≠ Utf8.encode "help\n".toList ∧
      (({} : Session).run m Exit.name ["help".toList]).1 = .ok 0 ∧
      (({} : Session).chain m [leave]).1 ≠ .ok .exit := by
  intro m leave
  let site : Site := ⟨m, ({} : Session).directory⟩
  have hplain : ∀ word ∈ ["help".toList], Plain word := by decide
  have hdelivers : ∀ output, (({} : Session).deliver .alone output 0).1 = .ok 0 ∧
      (({} : Session).deliver .alone output 0).2.streams.sink.written = output := fun _ => ⟨rfl, rfl⟩
  have hechoUsage : (Echo.name, Echo.grammar.usage) ∈ usages := by simp [usages]
  have hexitUsage : (Exit.name, Exit.grammar.usage) ∈ usages := by simp [usages]
  obtain ⟨echo, hecho, hprinted⟩ := find?_help site hechoUsage hplain (by decide)
  obtain ⟨exit, hexit, hasked⟩ := find?_help site hexitUsage hplain (by decide)
  refine ⟨by decide, fun hwritten => ?_, ?_, fun hends => ?_⟩
  · rw [run, runAt_builtin _ hecho, hprinted, runBuiltin, (hdelivers _).2] at hwritten
    dsimp only at hwritten
    -- the usage text starts with another letter
    have hfirst : Echo.grammar.usage.head? = some 'U' := by decide
    have hstart : (Text.endLine Echo.grammar.usage).head? = some 'U' := by
      rw [Text.endLine]
      split
      · exact hfirst
      · rw [List.head?_append, hfirst]
        rfl
    rw [Utf8.encode_inj hwritten] at hstart
    exact absurd hstart (by decide)
  · rw [run, runAt_builtin _ hexit, hasked]
    exact (hdelivers _).1
  · obtain ⟨_, stage, arguments, hstage, -, hcall, words, hparse⟩ := chain_exit_iff.mp hends
    obtain rfl : stage = leave := List.mem_singleton.mp (List.mem_of_getElem? hstage)
    rw [(Command.ofStage_quoted Exit.name ["help".toList]).2] at hcall
    cases hcall
    have hrefused : Exit.grammar.parse ["help".toList] = .error .help :=
      Grammar.parse_help (wordsGrammar_greedy _).takes fun _ hword => absurd hword List.not_mem_nil
    cases hrefused.symm.trans hparse

end Session

end LineShell
