import LineShell.Machine
import LineShell.Proofs.Locations

/-!
Finding the program for a name, by the spelling of the name. One component is searched along the search path,
and the first directory that has a regular file of that name is taken, whatever else stands before it.
Any other name is a path of its own.

  - `entries_eq_iff`: the directories of a search path.
  - `search_eq_some_iff` / `search_eq_none_iff`: what the search along them finds.
  - `find?_component` / `find?_several` / `find?_absolute` / `find?_here`: the lookup, by the spelling.
  - `found_cases`: what is found is a regular file, or a name that starts from the directory itself.
  - `finds_first_file`: which file a name finds.
-/

namespace LineShell

namespace Lookup

variable {m : Machine} {name component first second path : Text} {rest directories : List Text}

def entries (m : Machine) : List Text := Path.searchList (m.searchPath.getD [])

/-- The first directory that has a regular file of this name has it at `path`. -/
def First (m : Machine) (directories : List Text) (component path : Text) : Prop :=
  ∃ before entry after, directories = before ++ entry :: after ∧ path = Path.join entry component ∧
    m.isFile path = true ∧ ∀ earlier ∈ before, m.isFile (Path.join earlier component) = false

theorem entries_eq_iff :
    entries m = directories ↔
      directories ≠ [] ∧ (∀ entry ∈ directories, ':' ∉ entry) ∧ Text.join [':'] directories = m.searchPath.getD [] :=
  Text.splitAt_eq_iff

/-! ## The search -/

theorem search_eq_some_iff : search m component = some path ↔ First m (entries m) component path := by
  simp only [search, List.find?_map, Option.map_eq_some_iff, List.find?_eq_some_iff_append, Function.comp_apply]
  constructor
  · rintro ⟨entry, ⟨hfile, before, after, hentries, hbefore⟩, rfl⟩
    exact ⟨before, entry, after, hentries, rfl, hfile, fun earlier h => by simpa using hbefore earlier h⟩
  · rintro ⟨before, entry, after, hentries, rfl, hfile, hbefore⟩
    exact ⟨entry, ⟨hfile, before, after, hentries, fun earlier h => by simpa using hbefore earlier h⟩, rfl⟩

theorem search_eq_none_iff : search m component = none ↔ ∀ entry ∈ entries m, m.isFile (Path.join entry component) = false := by
  simp only [search, List.find?_eq_none, List.forall_mem_map, Bool.not_eq_true]
  rfl

theorem file?_eq_some_iff : file? m name = some path ↔ path = name ∧ m.isFile name = true := by
  rw [file?]
  split
  · rename_i hfile
    simp [hfile, eq_comm]
  · rename_i hfile
    simp [hfile]

/-! ## Spellings -/

theorem find?_nil (m : Machine) : find? m [] = none := rfl

theorem find?_absolute (h : Path.isAbsolute name = true) : find? m name = file? m name := by rw [find?, if_pos h]

theorem startsHere_of_spells (h : Path.Spells name (first :: rest)) (hfirst : first ≠ Path.here) :
    Path.startsHere name = false := by
  rw [Path.startsHere, Path.components_of_spells h]
  simp [hfirst]

/-- A single component is searched, unless the name is taken as it is. -/
theorem find?_one (h : Path.Spells name [component]) (hnot : (Path.startsHere name && m.present name) = false) :
    find? m name = search m component := by
  rw [find?, if_neg (by simp [h.relative.1]), hnot, Path.components_of_spells h]
  rfl

/-- Of several components, all that counts is whether the name is a file. -/
theorem find?_many (h : Path.Spells name (first :: second :: rest))
    (hnot : (Path.startsHere name && m.present name) = false) : find? m name = file? m name := by
  rw [find?, if_neg (by simp [h.relative.1]), hnot, Path.components_of_spells h]
  rfl

theorem find?_component (h : Path.Spells name [component]) (hhere : component ≠ Path.here) :
    find? m name = search m component :=
  find?_one h (by rw [startsHere_of_spells h hhere, Bool.false_and])

theorem find?_several (h : Path.Spells name (first :: second :: rest)) (hfirst : first ≠ Path.here) :
    find? m name = file? m name :=
  find?_many h (by rw [startsHere_of_spells h hfirst, Bool.false_and])

/-- A name that starts from the directory itself is taken as it is, if anything is there. -/
theorem find?_here (h : Path.FromHere name) (hpresent : m.present name = true) : find? m name = some name := by
  have hstarts : Path.startsHere name = true := Path.startsHere_iff.mpr h
  obtain ⟨rest, hspells⟩ := h
  rw [find?, if_neg (by simp [hspells.relative.1]), hstarts, hpresent]
  rfl

/-- The paths that a name stands for: one in each directory of the search path if it is a single component, or
else itself. -/
inductive Means (m : Machine) (name : Text) : Text → Prop
  | along {component entry : Text} : Path.Spells name [component] → entry ∈ entries m → Means m name (Path.join entry component)
  | itself : (∀ component, ¬ Path.Spells name [component]) → Means m name name

theorem means_component_iff (h : Path.Spells name [component]) :
    Means m name path ↔ ∃ entry ∈ entries m, path = Path.join entry component := by
  constructor
  · rintro (⟨hone, hentry⟩ | hnone)
    · have hcomponents := Path.components_of_spells hone
      rw [Path.components_of_spells h] at hcomponents
      cases hcomponents
      exact ⟨_, hentry, rfl⟩
    · exact absurd h (hnone component)
  · rintro ⟨entry, hentry, rfl⟩
    exact .along h hentry

theorem means_itself_iff (h : ∀ component, ¬ Path.Spells name [component]) : Means m name path ↔ path = name := by
  constructor
  · rintro (⟨hone, -⟩ | -)
    · exact absurd hone (h _)
    · rfl
  · rintro rfl
    exact .itself h

/-- What is found is a regular file at one of those paths, or it is the name itself, which starts from the
directory and has something there. -/
theorem found_cases (h : find? m name = some path) :
    (Means m name path ∧ m.isFile path = true) ∨ Path.FromHere name ∧ path = name ∧ m.present name = true := by
  cases hnot : Path.startsHere name && m.present name with
  | true =>
    obtain ⟨hstarts, hpresent⟩ := Bool.and_eq_true_iff.mp hnot
    have hhere : Path.FromHere name := Path.startsHere_iff.mp hstarts
    rw [find?_here hhere hpresent] at h
    exact Or.inr ⟨hhere, (Option.some.inj h).symm, hpresent⟩
  | false =>
    left
    have hfile : (∀ component, ¬ Path.Spells name [component]) → find? m name = file? m name →
        Means m name path ∧ m.isFile path = true := by
      intro hnone hfind
      obtain ⟨rfl, hfile⟩ := file?_eq_some_iff.mp (hfind ▸ h)
      exact ⟨.itself hnone, hfile⟩
    rcases Path.spelling_cases name with rfl | habsolute | ⟨component, hspells⟩ | ⟨first, second, rest, hspells⟩
    · cases h
    · refine hfile (fun component hspells => ?_) (find?_absolute habsolute)
      rw [hspells.relative.1] at habsolute
      cases habsolute
    · rw [find?_one hspells hnot] at h
      obtain ⟨before, entry, after, hentries, rfl, hisFile, -⟩ := search_eq_some_iff.mp h
      exact ⟨.along hspells (by rw [hentries]; simp), hisFile⟩
    · refine hfile (fun component hone => ?_) (find?_many hspells hnot)
      have hcomponents := Path.components_of_spells hone
      rw [Path.components_of_spells hspells] at hcomponents
      cases hcomponents

/-- Nothing is found if none of the paths is a regular file, and the name is not taken as it is. -/
theorem find?_eq_none (hhere : Path.FromHere name → m.present name = false)
    (h : ∀ path, Means m name path → m.isFile path = false) : find? m name = none := by
  cases hfind : find? m name with
  | none => rfl
  | some path =>
    rcases found_cases hfind with ⟨hmeans, hfile⟩ | ⟨hfrom, -, hpresent⟩
    · rw [h path hmeans] at hfile
      cases hfile
    · rw [hhere hfrom] at hpresent
      cases hpresent

/-! ## The first file -/

/-- Which file a name finds, for every machine and every name that does not start from the directory itself. If
the name is a single component, which may have slashes and `.` behind it, then the directories of the search
path are gone through in order. The path that is found leads to that component in the first directory that has
it as a regular file; if none has, nothing is found. If the name is absolute or has several components, it
finds itself exactly if it is a regular file, and the search path is not asked. The empty name finds nothing.
In the memory of a host, a component is looked for in the directory that the entry names, and in that of the
process if the entry is empty, as the only entry is if there is no search path. -/
theorem finds_first_file (m : Machine) :
    (∀ directories, entries m = directories ↔
      directories ≠ [] ∧ (∀ entry ∈ directories, ':' ∉ entry) ∧ Text.join [':'] directories = m.searchPath.getD []) ∧
    (∀ name component, Path.Spells name [component] → component ≠ Path.here →
      (∀ path, find? m name = some path ↔ First m (entries m) component path) ∧
      (find? m name = none ↔ ∀ entry ∈ entries m, m.isFile (Path.join entry component) = false)) ∧
    (∀ name, Path.isAbsolute name = true ∨
        (∃ first second rest, Path.Spells name (first :: second :: rest) ∧ first ≠ Path.here) →
      find? m name = if m.isFile name = true then some name else none) ∧
    find? m [] = none ∧
    (m.searchPath.getD [] = [] → entries m = [[]]) ∧
    ∀ h : Host, m = h.machine → h.base? [] = some h.home ∧
      ∀ entry component, Path.IsPart component → (m.isFile (Path.join entry component) = true ↔
        (Utf8.encode (Path.join entry component)).length < Host.Tree.pathBound ∧
          ∃ directory, h.base? entry = some directory ∧ h.tree.Regular directory component) := by
  refine ⟨fun directories => entries_eq_iff, fun name component hspells hhere => ?_, fun name hname => ?_,
    find?_nil m, fun hnone => ?_, ?_⟩
  · rw [find?_component hspells hhere]
    exact ⟨fun path => search_eq_some_iff, search_eq_none_iff⟩
  · rcases hname with habsolute | ⟨first, second, rest, hspells, hfirst⟩
    · rw [find?_absolute habsolute, file?]
    · rw [find?_several hspells hfirst, file?]
  · rw [entries, hnone]
    rfl
  · rintro h rfl
    refine ⟨rfl, fun entry component hpart => ?_⟩
    exact Host.isFile_join_iff hpart.relative hpart.1

/-- A directory, a script and a plain file of the same name, and a plain file further down. -/
def toolbox : Host :=
  let tree := (({} : Host.Tree).add (Host.location "/d/tool") .directory).add (Host.location "/opt/tool") (.file [] true)
  { tree := (tree.add (Host.location "/home/tool") (.file [] false)).add (Host.location "/home/sub/run") (.file [] false)
    home := Host.location "/home", searchPath := some "/missing:/d:/opt:".toList }

/-- Before the script, one directory of the search path is missing and one has a directory of that name. Without
a search path the file of the process's directory is found. -/
theorem finds_first_file_shadowed :
    let m := toolbox.machine
    let bare := { toolbox with searchPath := none }.machine
    Path.Spells "tool//./".toList ["tool".toList] ∧ "tool".toList ≠ Path.here ∧
      find? m "tool//./".toList = some "/opt/tool".toList ∧ find? bare "tool//./".toList = some "tool".toList ∧
      Path.Spells "sub//run".toList ["sub".toList, "run".toList] ∧
      find? m "sub//run".toList = some "sub//run".toList ∧
      Path.isAbsolute "/d/tool".toList = true ∧ find? m "/d/tool".toList = none ∧
      m.isFile (Path.join [] "tool".toList) = true := by
  intro m bare
  have htool : Path.Spells "tool//./".toList ["tool".toList] := Path.spells_iff.mpr ⟨rfl, by decide, rfl⟩
  have hrun : Path.Spells "sub//run".toList ["sub".toList, "run".toList] := Path.spells_iff.mpr ⟨rfl, by decide, rfl⟩
  obtain ⟨hentries, hsearch, hpath, -, -, hhost⟩ := finds_first_file m
  obtain ⟨-, hsearchBare, -, -, hnone, -⟩ := finds_first_file bare
  have hfour : entries m = ["/missing".toList, "/d".toList, "/opt".toList, []] := (hentries _).mpr (by decide)
  refine ⟨htool, by decide, ?_, ?_, hrun, ?_, rfl, ?_, ?_⟩
  · rw [(hsearch _ _ htool (by decide)).1, hfour]
    exact ⟨["/missing".toList, "/d".toList], "/opt".toList, [[]], rfl, rfl, by decide, by decide⟩
  · rw [(hsearchBare _ _ htool (by decide)).1, hnone rfl]
    exact ⟨[], [], [], rfl, rfl, by decide, nofun⟩
  · rw [hpath _ (Or.inr ⟨_, _, _, hrun, by decide⟩)]
    exact if_pos (by decide)
  · rw [hpath _ (Or.inl rfl)]
    exact if_neg (by decide)
  · rw [(hhost toolbox rfl).2 _ _ (by decide)]
    exact ⟨by decide, _, rfl, .file [] false, rfl, trivial⟩

end Lookup

end LineShell
