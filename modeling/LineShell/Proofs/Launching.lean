import LineShell.Proofs.Locations

/-!
Starting a program on a host. Its file is looked for from the directory of the launch, not from that of the
process, and only a regular file can be started.

  - `startFile_succ_iff`: a file is started by what stands at its path.
  - `start_eq_some_iff`: the directory is entered first, and then the candidates are tried.
  - `start_slash_iff`: a program with a slash in its path has itself as its only candidate.
  - `start_here`: the name of a directory is no program, whatever the search path is.
-/

namespace LineShell.Host

variable {h : Host} {d : Location} {input : Bytes} {n : Nat} {path : Text} {args : List Text} {node : Node}
  {outcome : Outcome} {l : Launch}

/-- What starting a node gives. A script is handed to the program that it names. -/
def load (h : Host) (d : Location) (input : Bytes) (n : Nat) (path : Text) (args : List Text) : Node → Option Outcome
  | .program .sh => some (h.runSh d args input)
  | .program p => some (p.run (args.map Utf8.encode) input)
  | .file content true =>
    match interpreter? (Utf8.decode content) with
    | some (program, argument) => h.startFile d input n program (argument ++ path :: args)
    | none => none
  | _ => none

theorem startFile_succ_iff :
    h.startFile d input (n + 1) path args = some outcome ↔
      ∃ node, h.tree.find d path = .ok node ∧ h.load d input n path args node = some outcome := by
  rw [startFile]
  cases h.tree.find d path with
  | error e => simp
  | ok node =>
    simp only [Except.ok.injEq, exists_eq_left']
    cases node with
    | directory | device => rfl
    | program p => cases p <;> rfl
    | file content isExecutable => cases isExecutable <;> rfl

theorem isRegular_of_load (hload : h.load d input n path args node = some outcome) : node.IsRegular := by
  cases node with
  | directory | device => cases hload
  | program _ | file _ _ => trivial

/-- The directory is entered first, and then the candidates are tried in order. -/
theorem start_eq_some_iff :
    h.start l = some outcome ↔
      (∀ text ∈ l.program :: l.arguments, '\x00' ∉ text) ∧
        ∃ d, h.tree.locate h.home l.directory = .ok d ∧ h.tree.isDirectory d = true ∧
          (h.candidates l.program).findSome? (fun path => h.startFile d l.input interpreterLimit path l.arguments) =
            some outcome := by
  have hnul : (l.program :: l.arguments).any (·.contains '\x00') = false ↔
      ∀ text ∈ l.program :: l.arguments, '\x00' ∉ text := by
    simp only [List.any_eq_false, List.contains_iff_mem]
  unfold start
  cases hany : (l.program :: l.arguments).any (·.contains '\x00') with
  | true =>
    refine iff_of_false nofun fun hall => ?_
    rw [hnul.mpr hall.1] at hany
    cases hany
  | false =>
    rw [and_iff_right (hnul.mp hany)]
    cases h.tree.locate h.home l.directory with
    | error e => simp
    | ok d => simp

theorem candidates_of_slash (hslash : '/' ∈ path) : h.candidates path = [path] := if_pos hslash

/-- A program with a slash in its path is looked for at that path only, from the directory of the launch. -/
theorem start_slash_iff (hslash : '/' ∈ l.program) :
    h.start l = some outcome ↔
      (∀ text ∈ l.program :: l.arguments, '\x00' ∉ text) ∧
        ∃ d node, h.tree.locate h.home l.directory = .ok d ∧ h.tree.isDirectory d = true ∧
          h.tree.find d l.program = .ok node ∧
          h.load d l.input (interpreterLimit - 1) l.program l.arguments node = some outcome := by
  have hone : ∀ d, ([l.program].findSome? fun path => h.startFile d l.input interpreterLimit path l.arguments) =
      h.startFile d l.input (interpreterLimit - 1 + 1) l.program l.arguments := by
    intro d
    rw [List.findSome?_singleton]
    rfl
  simp only [start_eq_some_iff, candidates_of_slash hslash, hone, startFile_succ_iff, exists_and_left]

/-- What is started is a regular file at one of the candidates. -/
theorem regular_of_start (hstart : h.start l = some outcome) :
    ∃ d, h.tree.locate h.home l.directory = .ok d ∧ ∃ path ∈ h.candidates l.program, h.tree.Regular d path := by
  obtain ⟨-, d, hlocate, -, hsome⟩ := start_eq_some_iff.mp hstart
  obtain ⟨path, hpath, hfile⟩ := List.exists_of_findSome?_eq_some hsome
  obtain ⟨node, hfind, hload⟩ := startFile_succ_iff (n := interpreterLimit - 1).mp hfile
  exact ⟨d, hlocate, path, hpath, node, hfind, isRegular_of_load hload⟩

/-- Followed from any directory, the name of the directory itself leads to a directory. -/
theorem not_regular_join_here (entry : Text) : ¬ h.tree.Regular d (Path.join entry Path.here) := by
  rintro ⟨node, hfind, hregular⟩
  have hsteps : ∃ names, Tree.steps (Path.join entry Path.here) = names ++ [Path.here] := by
    by_cases hentry : entry = []
    · exact ⟨[], by rw [hentry]; rfl⟩
    · exact ⟨Path.parts entry, Tree.steps_join rfl (by decide) hentry⟩
  rw [Tree.find_here hfind hsteps] at hregular
  exact hregular

/-- A name that starts from the directory itself, and has no regular file at it from the directory of the
launch, is not started: along the search path it would only lead to directories. -/
theorem start_here (hhere : Path.FromHere l.program)
    (hnot : ∀ d, h.tree.locate h.home l.directory = .ok d → ¬ h.tree.Regular d l.program) : h.start l = none := by
  cases hstart : h.start l with
  | none => rfl
  | some outcome =>
    obtain ⟨d, hlocate, path, hpath, hregular⟩ := regular_of_start hstart
    exfalso
    by_cases hslash : '/' ∈ l.program
    · rw [candidates_of_slash hslash, List.mem_singleton] at hpath
      subst hpath
      exact hnot d hlocate hregular
    · rw [candidates, if_neg hslash, List.mem_map] at hpath
      obtain ⟨entry, -, rfl⟩ := hpath
      rw [hhere.eq_here hslash] at hregular
      exact not_regular_join_here entry hregular

end LineShell.Host
