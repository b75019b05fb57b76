import LineShell.Proofs.Direct
import LineShell.Proofs.Endings
import LineShell.Proofs.Launching
import LineShell.Proofs.Search

/-!
Calls of names that are no programs: directories, and files that are there from one directory only. A name
that starts from the directory itself is taken for a program whatever is there, and fails when it is started.
Any name of several components is looked for from the directory of the process, and started from that of the
session, where a built-in command would look for it.

  - `chain_of_reply_error`: a call that gets no reply ends its chain.
  - `refuses_unknown` / `refuses_unstarted`: so does every call of a name that is not known or cannot be started.
  - `directories_refused`: what a name that finds something stands for, and what the name of a directory gives.
  - `found_from_home`: from which directory a name is looked for, started, and read.
-/

namespace LineShell

namespace Builtin

variable {site : Site} {name : Text}

theorem find?_of_notMem (h : name ∉ names) : find? site name = none := by
  simp only [names, List.mem_cons, List.not_mem_nil, or_false, not_or] at h
  obtain ⟨hecho, hpwd, hexit, hcat, hwc, hgrep⟩ := h
  simp only [find?, hecho, hpwd, hexit, hcat, hwc, hgrep, if_false]

theorem notMem_names_of_fromHere (h : Path.FromHere name) : name ∉ names := by
  have hnames : ∀ name ∈ names, Path.startsHere name = false := by decide
  intro hname
  have hstarts := hnames name hname
  rw [Path.startsHere_iff.mpr h] at hstarts
  cases hstarts

theorem notMem_names_of_slash (h : '/' ∈ name) : name ∉ names := by
  have hnames : ∀ name ∈ names, '/' ∉ name := by decide
  exact fun hname => hnames name hname h

end Builtin

theorem Input.handOver_eq_error {input : Input} {cause : Text} (h : input.handOver.1 = .error cause) :
    ∃ src, input = .source src ∧ src.failure = some cause := by
  cases input with
  | upstream data => cases h
  | source src =>
    refine ⟨src, rfl, ?_⟩
    rw [handOver] at h
    split at h
    · cases h
    · simp only [readAll, Source.readAll] at h
      split at h
      · rename_i hfailure
        rw [hfailure, Except.error.inj h]
      · cases h

theorem Effect.outcome_ofReply {vars : Variables} {reply : Except LineError Builtin.Reply × Input} {e : LineError}
    (h : reply.1 = .error e) : (Effect.ofReply vars reply).outcome = .error e := by
  obtain ⟨result, rest⟩ := reply
  obtain rfl : result = .error e := h
  rfl

namespace Session

variable {s : Session} {m : Machine} {name : Text} {arguments : List Text} {stages : List Stage} {stage : Stage}
  {index : Nat} {e : LineError}

/-! ## Calls without a reply -/

/-- A chain that reaches a call which gives no reply ends with its error. -/
theorem chain_of_reply_error (hstage : stages[index]? = some stage) (hreached : index ≤ s.completed m stages)
    (hcall : Command.ofStage stage = .call (name :: arguments))
    (hreply : (Command.reply m s.directory name arguments ((Flow.upTo m s stages index).input stages.length)).1 = .error e) :
    (s.chain m stages).1 = .error e := by
  have houtcome : (Flow.effectAt m s stages index stage).outcome = .error e := by
    rw [Flow.effectAt, Stage.effect_of_nonempty (Stage.isEmpty_of_call hcall), hcall]
    exact Effect.outcome_ofReply hreply
  have hstop : (Flow.effectAt m s stages index stage).outcome ≠ .ok .goOn := by
    intro hgo
    rw [houtcome] at hgo
    cases hgo
  rw [← houtcome]
  exact chain_of_stop hstage hreached hstop

/-- A stage of a chain has the session's source to read only if it is alone, and so the first one. -/
theorem input_eq_source {src : Source} (hstage : stages[index]? = some stage)
    (h : (Flow.upTo m s stages index).input stages.length = .source src) : src = s.streams.source := by
  rw [Flow.input] at h
  split at h
  · rename_i hone
    have hlt := (List.getElem?_eq_some_iff.mp hstage).1
    obtain rfl : index = 0 := by omega
    exact (Input.source.inj h).symm
  · cases h

/-- Every chain that comes to a call of the name ends with such an error. -/
def Refuses (s : Session) (m : Machine) (name : Text) (errors : LineError → Prop) : Prop :=
  ∀ stages index stage arguments, stages[index]? = some stage → index ≤ s.completed m stages →
    Command.ofStage stage = .call (name :: arguments) → ∃ e, (s.chain m stages).1 = .error e ∧ errors e

/-- So does the call that is alone in its chain, its words being quoted. -/
theorem Refuses.alone {errors : LineError → Prop} (h : s.Refuses m name errors) (arguments : List Text) :
    ∃ e, (s.chain m [Stage.quoted (name :: arguments)]).1 = .error e ∧ errors e :=
  h _ 0 _ arguments rfl (Nat.zero_le _) (Command.ofStage_quoted name arguments).2

theorem refuses_unknown (hname : name ∉ Builtin.names) (hfind : Lookup.find? m name = none) :
    s.Refuses m name (· = .unknownCommand name) := by
  intro stages index stage arguments hstage hreached hcall
  refine ⟨_, chain_of_reply_error hstage hreached hcall ?_, rfl⟩
  simp only [Command.reply, Builtin.find?_of_notMem hname, hfind]

/-- A program that is found and not started fails its line, unless reading its input already does. -/
theorem refuses_unstarted {program : Text} (hname : name ∉ Builtin.names) (hfind : Lookup.find? m name = some program)
    (hstart : ∀ arguments input, m.start { program, arguments, directory := s.directory, input } = none) :
    s.Refuses m name fun e =>
      e = spawnFailure program ∨ ∃ cause, s.streams.source.failure = some cause ∧ e = .command cause := by
  intro stages index stage arguments hstage hreached hcall
  have hreply : ∀ input, Command.reply m s.directory name arguments input =
      programReply m s.directory program arguments input := by
    intro input
    simp only [Command.reply, Builtin.find?_of_notMem hname, hfind]
  generalize hinput : (Flow.upTo m s stages index).input stages.length = input
  rcases hover : input.handOver with ⟨cause | data, rest⟩
  · refine ⟨_, chain_of_reply_error (e := .command cause) hstage hreached hcall ?_, Or.inr ⟨cause, ?_, rfl⟩⟩
    · rw [hinput, hreply, programReply, hover]
    · obtain ⟨src, rfl, hfailure⟩ := Input.handOver_eq_error (congrArg Prod.fst hover)
      rw [← input_eq_source hstage hinput, hfailure]
  · refine ⟨_, chain_of_reply_error (e := spawnFailure program) hstage hreached hcall ?_, Or.inl rfl⟩
    rw [hinput, hreply, programReply, hover]
    simp only [hstart]

/-! ## Directories -/

/-- What a name that finds something stands for, and what the name of a directory gives. A path that is found is a
regular file, or it is the name itself, which starts from the directory and has something there. So a name of
any other spelling fails as unknown where no regular file is meant by it, as when directories are there. One
that starts from the directory itself, and has no regular file at it, is found all the same, and it is only the
machine that refuses it. -/
theorem directories_refused (s : Session) (m : Machine) (name : Text) :
    (∀ path, Lookup.find? m name = some path →
      Lookup.Means m name path ∧ m.isFile path = true ∨ Path.FromHere name ∧ path = name ∧ m.present name = true) ∧
    (name ∉ Builtin.names → (Path.FromHere name → m.present name = false) →
      (∀ path, Lookup.Means m name path → m.isFile path = false) → s.Refuses m name (· = .unknownCommand name)) ∧
    (Path.FromHere name → m.present name = true →
      (∀ arguments input, m.start { program := name, arguments, directory := s.directory, input } = none) →
      s.Refuses m name fun e =>
        e = spawnFailure name ∨ ∃ cause, s.streams.source.failure = some cause ∧ e = .command cause) ∧
    ∀ h : Host, m = h.machine →
      (∀ path, m.isFile path = true ↔ h.tree.Regular h.home path) ∧
      (∀ path, h.tree.find h.home path = .ok .directory → m.isFile path = false ∧ m.present path = true) ∧
      (Path.FromHere name → (∀ d, h.tree.locate h.home s.directory = .ok d → ¬ h.tree.Regular d name) →
        ∀ arguments input, m.start { program := name, arguments, directory := s.directory, input } = none) := by
  refine ⟨fun path => Lookup.found_cases, fun hname hhere hmeans => ?_, fun hhere hpresent hstart => ?_, ?_⟩
  · exact refuses_unknown hname (Lookup.find?_eq_none hhere hmeans)
  · exact refuses_unstarted (Builtin.notMem_names_of_fromHere hhere) (Lookup.find?_here hhere hpresent) hstart
  · rintro h rfl
    refine ⟨fun path => Host.isFile_iff, fun path hfind => ⟨?_, Host.present_of_find hfind⟩,
      fun hhere hnot arguments input => Host.start_here hhere hnot⟩
    rw [Bool.eq_false_iff, Ne, Host.isFile_iff]
    rintro ⟨node, hnode, hregular⟩
    cases hfind.symm.trans hnode
    exact hregular

def folders : Host :=
  let tree := ({} : Host.Tree).add (Host.location "/home/d") .directory
  { tree := tree.add (Host.location "/opt/tool") .directory, home := Host.location "/home", searchPath := some "/opt".toList }

theorem folders_find : ∀ path ∈ ["/opt/tool".toList, "/home/d".toList, "./d".toList, ['.']],
    folders.tree.find folders.home path = .ok .directory := by decide

/-- Along the search path and by their absolute paths, directories are unknown. From the directory itself they
are found and not started. -/
theorem directories_refused_folders :
    let m := folders.machine
    (∀ name ∈ ["tool".toList, "/home/d".toList],
      (({} : Session).chain m [Stage.quoted [name]]).1 = .error (.unknownCommand name)) ∧
    ∀ name ∈ ["./d".toList, ['.']],
      (({} : Session).chain m [Stage.quoted [name]]).1 = .error (spawnFailure name) := by
  intro m
  constructor
  · have hplain : ∀ name ∈ ["tool".toList, "/home/d".toList],
        name ∉ Builtin.names ∧ Path.startsHere name ≠ true := by decide
    have hmeans : ∀ name ∈ ["tool".toList, "/home/d".toList], ∀ path, Lookup.Means m name path →
        path ∈ ["/opt/tool".toList, "/home/d".toList] := by
      simp only [List.forall_mem_cons]
      refine ⟨fun path h => ?_, fun path h => ?_, nofun⟩
      · obtain ⟨entry, hentry, rfl⟩ := (Lookup.means_component_iff (Path.spells_iff.mpr ⟨rfl, by decide, rfl⟩)).mp h
        obtain rfl : entry = "/opt".toList := List.mem_singleton.mp hentry
        decide
      · obtain rfl := (Lookup.means_itself_iff fun component hspells => absurd hspells.relative.1 (by decide)).mp h
        decide
    intro name hmem
    obtain ⟨-, hrefuses, -, hhost⟩ := directories_refused {} m name
    obtain ⟨-, hdirectory, -⟩ := hhost folders rfl
    obtain ⟨hname, hhere⟩ := hplain name hmem
    have hnone : ∀ path, Lookup.Means m name path → m.isFile path = false := fun path h =>
      (hdirectory path (folders_find path (List.mem_append_left _ (hmeans name hmem path h)))).1
    obtain ⟨_, hchain, rfl⟩ :=
      (hrefuses hname (fun hfrom => absurd (Path.startsHere_iff.mpr hfrom) hhere) hnone).alone []
    exact hchain
  · have hstarts : ∀ name ∈ ["./d".toList, ['.']], Path.startsHere name = true := by decide
    intro name hmem
    obtain ⟨-, -, hrefuses, hhost⟩ := directories_refused {} m name
    obtain ⟨-, hdirectory, hstart⟩ := hhost folders rfl
    have hhere : Path.FromHere name := Path.startsHere_iff.mp (hstarts name hmem)
    have hfind := folders_find name (List.mem_append_right ["/opt/tool".toList, "/home/d".toList] hmem)
    have hnot : ∀ d, folders.tree.locate folders.home Path.here = .ok d → ¬ folders.tree.Regular d name := by
      rintro d hd ⟨node, hnode, hregular⟩
      have hhome : folders.tree.locate folders.home Path.here = .ok folders.home := by decide
      cases hhome.symm.trans hd
      cases hfind.symm.trans hnode
      exact hregular
    obtain ⟨_, hchain, rfl | ⟨cause, hfailure, -⟩⟩ :=
      (hrefuses hhere (hdirectory name hfind).2 (hstart hhere hnot)).alone []
    · exact hchain
    · cases hfailure

/-- What is found from the directory itself need not be a file, and its call does not fail as unknown. -/
theorem directory_found :
    let m := folders.machine
    ∀ name ∈ ["./d".toList, ['.']],
      folders.tree.find folders.home name = .ok .directory ∧
        ¬ (∀ path, Lookup.find? m name = some path → m.isFile path = true) ∧
        (({} : Session).chain m [Stage.quoted [name]]).1 ≠ .error (.unknownCommand name) := by
  intro m name hmem
  have hfound : ∀ name ∈ ["./d".toList, ['.']], Lookup.find? m name = some name ∧ m.isFile name = false ∧
      (({} : Session).chain m [Stage.quoted [name]]).1 = .error (spawnFailure name) := by decide +kernel
  obtain ⟨hfind, hfile, hchain⟩ := hfound name hmem
  refine ⟨folders_find name (List.mem_append_right ["/opt/tool".toList, "/home/d".toList] hmem), fun hall => ?_,
    fun hunknown => ?_⟩
  · rw [hall name hfind] at hfile
    cases hfile
  · cases hchain.symm.trans hunknown

/-! ## Names of several components -/

theorem runAt_found {p : Position} {program : Text} (hname : name ∉ Builtin.names)
    (hfind : Lookup.find? m name = some program) : s.runAt m p name arguments = s.runProgram m p program arguments := by
  simp only [runAt, Builtin.find?_of_notMem hname, hfind]

theorem runAt_not_found {p : Position} (hname : name ∉ Builtin.names) (hfind : Lookup.find? m name = none) :
    s.runAt m p name arguments = (.error (.unknownCommand name), s) := by
  simp only [runAt, Builtin.find?_of_notMem hname, hfind]

/-- The program that is started for such a name is what stands at it from the session's directory. A built-in
command reads the same file under that name, if the path is not too long to be followed. -/
theorem node_of_start {h : Host} {first second : Text} {rest : List Text} {input : Bytes} {outcome : Outcome}
    (hspells : Path.Spells name (first :: second :: rest))
    (hstart : h.start { program := name, arguments, directory := s.directory, input } = some outcome) :
    ∃ d node, h.base? s.directory = some d ∧ h.tree.find d name = .ok node ∧ node.IsRegular ∧
      h.load d input (Host.interpreterLimit - 1) name arguments node = some outcome ∧
      ((Utf8.encode (Path.join s.directory name)).length < Host.Tree.pathBound →
        Builtin.Site.read ⟨h.machine, s.directory⟩ name = Host.Tree.content node) := by
  obtain ⟨-, d, node, hlocate, -, hfind, hload⟩ := (Host.start_slash_iff hspells.slash_mem).mp hstart
  have hdirectory : s.directory ≠ [] := (Host.Tree.locate_eq_ok_iff.mp hlocate).2.1
  have hbase : h.base? s.directory = some d := (Host.base?_eq_some_iff hdirectory).mpr hlocate
  refine ⟨d, node, hbase, hfind, Host.isRegular_of_load hload, hload, fun hlength => ?_⟩
  have hjoin := (Host.find_base_iff hspells.relative.1 hspells.relative.2).mpr ⟨hlength, d, hbase, hfind⟩
  show (h.tree.find h.home (Path.join s.directory name)).bind Host.Tree.content = Host.Tree.content node
  rw [hjoin]
  rfl

/-- From which directory a name is looked for, started, and read, if it has several components and does not
start from the directory itself. It is found exactly if it is a regular file from the directory of the process,
but it is the session's directory from which it is a file for a built-in command. So the two agree where the
session's directory is that of the process. Only a file that is found is tried to be started, and what is
started then is the file that a built-in command would read. -/
theorem found_from_home (h : Host) (s : Session) {name first second : Text} {rest : List Text}
    (hspells : Path.Spells name (first :: second :: rest)) (hfirst : first ≠ Path.here) :
    (∀ path, Lookup.find? h.machine name = some path ↔ path = name ∧ h.tree.Regular h.home name) ∧
    (h.machine.isFile (Path.join s.directory name) = true ↔
      (Utf8.encode (Path.join s.directory name)).length < Host.Tree.pathBound ∧
        ∃ d, h.base? s.directory = some d ∧ h.tree.Regular d name) ∧
    (h.base? s.directory = some h.home → (Utf8.encode (Path.join s.directory name)).length < Host.Tree.pathBound →
      ((∃ path, Lookup.find? h.machine name = some path) ↔ h.machine.isFile (Path.join s.directory name) = true)) ∧
    (∀ arguments input outcome,
      h.machine.start { program := name, arguments, directory := s.directory, input } = some outcome →
        ∃ d node, h.base? s.directory = some d ∧ h.tree.find d name = .ok node ∧ node.IsRegular ∧
          h.load d input (Host.interpreterLimit - 1) name arguments node = some outcome ∧
          ((Utf8.encode (Path.join s.directory name)).length < Host.Tree.pathBound →
            Builtin.Site.read ⟨h.machine, s.directory⟩ name = Host.Tree.content node)) ∧
    ∀ p arguments, s.runAt h.machine p name arguments =
      if h.machine.isFile name = true then s.runProgram h.machine p name arguments
      else (.error (.unknownCommand name), s) := by
  have hfind : ∀ path, Lookup.find? h.machine name = some path ↔ path = name ∧ h.tree.Regular h.home name := by
    intro path
    rw [Lookup.find?_several hspells hfirst, Lookup.file?_eq_some_iff, Host.isFile_iff]
  have hfile : h.machine.isFile (Path.join s.directory name) = true ↔
      (Utf8.encode (Path.join s.directory name)).length < Host.Tree.pathBound ∧
        ∃ d, h.base? s.directory = some d ∧ h.tree.Regular d name :=
    Host.isFile_join_iff hspells.relative.1 hspells.relative.2
  refine ⟨hfind, hfile, fun hbase hlength => ?_, fun arguments input outcome => node_of_start hspells, fun p arguments => ?_⟩
  · simp only [hfind, hfile, hbase, hlength, true_and, exists_eq_left, Option.some.injEq, exists_eq_left']
  · have hname := Builtin.notMem_names_of_slash hspells.slash_mem
    have hlookup : Lookup.find? h.machine name = if h.machine.isFile name = true then some name else none :=
      Lookup.find?_several hspells hfirst
    split
    · rename_i hisFile
      exact runAt_found hname (hlookup.trans (if_pos hisFile))
    · rename_i hisFile
      exact runAt_not_found hname (hlookup.trans (if_neg hisFile))

/-- From its own directory a process has two programs, and a session further down has one of the same name and
another one. -/
def divided : Host :=
  let tree := (({} : Host.Tree).add (Host.location "/home/bin/tool") (.program .fail)).add
    (Host.location "/home/bin/outer") (.program .succeed)
  { tree := (tree.add (Host.location "/home/sub/bin/tool") (.program .succeed)).add
      (Host.location "/home/sub/bin/inner") (.program .succeed)
    home := Host.location "/home" }

def below : Session := { directory := "sub".toList }

/-- One file is found in the directory of the process, and the file of that name in the session's directory is
started in its place. In a session in the directory of the process the two are one. -/
theorem found_from_home_divided :
    let m := divided.machine
    let name := "bin/tool".toList
    Path.Spells name ["bin".toList, "tool".toList] ∧ "bin".toList ≠ Path.here ∧
      divided.tree.find divided.home name = .ok (.program .fail) ∧ Lookup.find? m name = some name ∧
      divided.base? below.directory = some (Host.location "/home/sub") ∧
      (∃ node, divided.tree.find (Host.location "/home/sub") name = .ok node ∧ node.IsRegular ∧
        Builtin.Site.read ⟨m, below.directory⟩ name = Host.Tree.content node) ∧
      (below.run m name []).1 = .ok 0 ∧
      ((∃ path, Lookup.find? m "bin/inner".toList = some path) ↔
        m.isFile (Path.join ({} : Session).directory "bin/inner".toList) = true) := by
  intro m name
  have hspells : Path.Spells name ["bin".toList, "tool".toList] := Path.spells_iff.mpr ⟨rfl, by decide, rfl⟩
  have hinner : Path.Spells "bin/inner".toList ["bin".toList, "inner".toList] := Path.spells_iff.mpr ⟨rfl, by decide, rfl⟩
  obtain ⟨hfind, -, -, hstart, hrun⟩ := found_from_home divided below hspells (by decide)
  obtain ⟨-, -, hagree, -⟩ := found_from_home divided {} hinner (by decide)
  have hhome : divided.tree.find divided.home name = .ok (.program .fail) := by decide
  have hsub : divided.base? below.directory = some (Host.location "/home/sub") := by decide
  have hstarted : m.start { program := name, arguments := [], directory := below.directory, input := [] } = some {} := by
    decide
  obtain ⟨d, node, hbase, hnode, hregular, -, hread⟩ := hstart [] [] {} hstarted
  cases hsub.symm.trans hbase
  refine ⟨hspells, by decide, hhome, (hfind name).mpr ⟨rfl, _, hhome, trivial⟩, hsub,
    ⟨node, hnode, hregular, hread (by decide)⟩, ?_, hagree rfl (by decide)⟩
  rw [Session.run, hrun, if_pos (by decide)]
  rfl

/-- A file that only the process has under a name is found, and one that only the session has is not. So the
call of the first one fails when it is started, and that of the second one as unknown. -/
theorem found_in_other_directory :
    let m := divided.machine
    (∀ component ∈ ["outer".toList, "inner".toList], ∃ name, Path.Spells name ["bin".toList, component] ∧
      ¬ ((∃ path, Lookup.find? m name = some path) ↔ m.isFile (Path.join below.directory name) = true)) ∧
    (below.run m "bin/outer".toList []).1 = .error (spawnFailure "bin/outer".toList) ∧
    (below.run m "bin/inner".toList []).1 = .error (.unknownCommand "bin/inner".toList) := by
  intro m
  simp only [List.forall_mem_cons]
  refine ⟨⟨⟨"bin/outer".toList, Path.spells_iff.mpr ⟨rfl, by decide, rfl⟩, fun hiff => ?_⟩,
    ⟨"bin/inner".toList, Path.spells_iff.mpr ⟨rfl, by decide, rfl⟩, fun hiff => ?_⟩, nofun⟩, rfl, rfl⟩
  · have hfound : Lookup.find? m "bin/outer".toList = some "bin/outer".toList := by decide
    exact absurd (hiff.mp ⟨_, hfound⟩) (by decide)
  · have hfile : m.isFile (Path.join below.directory "bin/inner".toList) = true := by decide
    obtain ⟨path, hfound⟩ := hiff.mpr hfile
    have hnone : Lookup.find? m "bin/inner".toList = none := by decide
    cases hnone.symm.trans hfound

end Session

end LineShell
