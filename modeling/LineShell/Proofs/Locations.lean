import LineShell.Host
import LineShell.Proofs.Decoding
import LineShell.Proofs.Spelling

/-!
The way along a path in a tree. A path that is followed from another one leads from where that one leads to,
as long as the two together are not too long.

  - `walk_append_iff`: names are gone along one after the other.
  - `locate_join_iff` / `find_join_iff`: a relative path, followed from a directory that is a path itself.
  - `find_here`: a path that ends with the name of the directory itself leads to a directory.
  - `find_base_iff` / `isFile_join_iff`: what a machine finds at a path that is followed from a directory.
-/

namespace LineShell.Host

/-- A file that is neither a directory nor a device. -/
def Node.IsRegular : Node → Prop
  | .file .. | .program _ => True
  | .directory | .device => False

instance : DecidablePred Node.IsRegular
  | .file .. | .program _ => isTrue trivial
  | .directory | .device => isFalse id

namespace Tree

variable {tree : Tree} {l x : Location} {a b : List Text} {dir path component : Text} {node : Node}

def Regular (tree : Tree) (l : Location) (path : Text) : Prop := ∃ node, tree.find l path = .ok node ∧ node.IsRegular

/-! ## Names -/

theorem isDirectory_of_walk {name : Text} {rest : List Text} (h : tree.walk l (name :: rest) = .ok x) :
    tree.isDirectory l = true := by
  rw [walk] at h
  split at h
  · cases h
  · simp_all

theorem walk_here_iff : tree.walk l [Path.here] = .ok x ↔ tree.isDirectory l = true ∧ x = l := by
  simp only [walk, if_true]
  cases tree.isDirectory l with
  | false => simp
  | true => simp [eq_comm]

/-- Names are gone along one after the other. -/
theorem walk_append_iff : tree.walk l (a ++ b) = .ok x ↔ ∃ d, tree.walk l a = .ok d ∧ tree.walk d b = .ok x := by
  induction a generalizing l with
  | nil => simp [walk]
  | cons name rest ih =>
    have hnone : ∀ {e : FileError}, (.error e : Except FileError Location) = .ok x ↔
        ∃ d, (.error e : Except FileError Location) = .ok d ∧ tree.walk d b = .ok x := by simp
    rw [List.cons_append, walk, walk]
    split
    · exact hnone
    split
    · exact ih
    split
    · exact ih
    split
    · exact hnone
    split
    · exact hnone
    · exact ih

/-! ## Paths -/

theorem locate_eq_ok_iff :
    tree.locate l path = .ok x ↔
      '\x00' ∉ path ∧ path ≠ [] ∧ (Utf8.encode path).length < pathBound ∧
        tree.walk (if Path.isAbsolute path then [] else l) (steps path) = .ok x := by
  unfold locate
  split
  · simp_all
  split
  · simp_all
  split
  · rename_i hlong
    simp [Nat.not_lt.mpr hlong]
  · rename_i hnul hnil hlong
    simp [hnul, hnil, Nat.not_le.mp hlong]

theorem find_eq_ok_iff : tree.find l path = .ok node ↔ ∃ x, tree.locate l path = .ok x ∧ tree.get? x = some node := by
  unfold find
  cases tree.locate l path with
  | error e => simp [bind, Except.bind]
  | ok x =>
    cases hget : tree.get? x with
    | none => simp [bind, Except.bind, hget]
    | some node => simp [bind, Except.bind, hget]

theorem mem_join_iff {c : Char} (hc : c ≠ '/') (hrel : Path.isAbsolute path = false) (hdir : dir ≠ []) :
    c ∈ Path.join dir path ↔ c ∈ dir ∨ c ∈ path := by
  rw [Path.join_relative hrel hdir]
  split
  · exact List.mem_append
  · simp [hc]

theorem length_join (hrel : Path.isAbsolute path = false) (hdir : dir ≠ []) :
    (Utf8.encode dir).length ≤ (Utf8.encode (Path.join dir path)).length ∧
      (Utf8.encode path).length ≤ (Utf8.encode (Path.join dir path)).length := by
  rw [Path.join_relative hrel hdir]
  split
  · rw [Utf8.encode_append, List.length_append]
    omega
  · rw [Utf8.encode_append, Utf8.encode_cons, List.length_append, List.length_append]
    omega

theorem isAbsolute_join (hrel : Path.isAbsolute path = false) (hdir : dir ≠ []) :
    Path.isAbsolute (Path.join dir path) = Path.isAbsolute dir := by
  obtain ⟨c, r, rfl⟩ := List.exists_cons_of_ne_nil hdir
  rw [Path.join_relative hrel hdir]
  split
  · rfl
  · rfl

/-- The slash at the end is that of the second path. -/
theorem steps_join (hrel : Path.isAbsolute path = false) (hne : path ≠ []) (hdir : dir ≠ []) :
    steps (Path.join dir path) = Path.parts dir ++ steps path := by
  have hbehind : ∀ a : Text, (a ++ path).getLast? = path.getLast? := by
    intro a
    rw [List.getLast?_append, List.getLast?_eq_some_getLast hne]
    rfl
  have hlast : (Path.join dir path).getLast? = path.getLast? := by
    rw [Path.join_relative hrel hdir]
    split
    · exact hbehind dir
    · rw [List.append_cons]
      exact hbehind _
  rw [steps, steps, hlast, Path.parts_join hrel hdir, List.append_assoc]

/-- Where the names go on, a slash behind them changes nothing. -/
theorem walk_steps_iff {d : Location} (hd : tree.isDirectory d = true) :
    tree.walk l (steps dir) = .ok d ↔ tree.walk l (Path.parts dir) = .ok d := by
  rw [steps, walk_append_iff]
  split
  · constructor
    · rintro ⟨d', hparts, hhere⟩
      obtain ⟨-, rfl⟩ := walk_here_iff.mp hhere
      exact hparts
    · intro h
      exact ⟨d, h, walk_here_iff.mpr ⟨hd, rfl⟩⟩
  · simp [walk]

/-- A relative path, followed from a directory that is a path itself: first the one, and then the other. -/
theorem locate_join_iff (hrel : Path.isAbsolute path = false) (hne : path ≠ []) (hdir : dir ≠ []) :
    tree.locate l (Path.join dir path) = .ok x ↔
      (Utf8.encode (Path.join dir path)).length < pathBound ∧
        ∃ d, tree.locate l dir = .ok d ∧ tree.locate d path = .ok x := by
  obtain ⟨name, rest, hsteps⟩ : ∃ name rest, steps path = name :: rest := by
    obtain ⟨name, rest, hparts⟩ := List.exists_cons_of_ne_nil (Path.parts_ne_nil hrel hne)
    exact ⟨name, rest ++ _, by rw [steps, hparts]; rfl⟩
  obtain ⟨hdirLength, hpathLength⟩ := length_join hrel hdir
  have hjoin : Path.join dir path ≠ [] := by
    intro hnil
    have hparts := Path.parts_join hrel hdir
    rw [hnil] at hparts
    exact Path.parts_ne_nil hrel hne (List.append_eq_nil_iff.mp hparts.symm).2
  simp only [locate_eq_ok_iff, mem_join_iff (show '\x00' ≠ '/' by decide) hrel hdir, isAbsolute_join hrel hdir,
    steps_join hrel hne hdir, walk_append_iff, hrel, Bool.false_eq_true, if_false, not_or]
  constructor
  · rintro ⟨⟨hdirNul, hpathNul⟩, -, hlength, d, hparts, hwalk⟩
    have hd : tree.isDirectory d = true := isDirectory_of_walk (hsteps ▸ hwalk)
    exact ⟨hlength, d, ⟨hdirNul, hdir, by omega, (walk_steps_iff hd).mpr hparts⟩, hpathNul, hne, by omega, hwalk⟩
  · rintro ⟨hlength, d, ⟨hdirNul, -, -, hparts⟩, hpathNul, -, -, hwalk⟩
    have hd : tree.isDirectory d = true := isDirectory_of_walk (hsteps ▸ hwalk)
    exact ⟨⟨hdirNul, hpathNul⟩, hjoin, hlength, d, (walk_steps_iff hd).mp hparts, hwalk⟩

/-- The node there is the one that the second path leads to. -/
theorem find_join_iff (hrel : Path.isAbsolute path = false) (hne : path ≠ []) (hdir : dir ≠ []) :
    tree.find l (Path.join dir path) = .ok node ↔
      (Utf8.encode (Path.join dir path)).length < pathBound ∧
        ∃ d, tree.locate l dir = .ok d ∧ tree.find d path = .ok node := by
  simp only [find_eq_ok_iff, locate_join_iff hrel hne hdir]
  constructor
  · rintro ⟨x, ⟨hlength, d, hlocate, hpath⟩, hget⟩
    exact ⟨hlength, d, hlocate, x, hpath, hget⟩
  · rintro ⟨hlength, d, hlocate, x, hpath, hget⟩
    exact ⟨x, ⟨hlength, d, hlocate, hpath⟩, hget⟩

/-- A path that ends at the directory it has reached leads to a directory. -/
theorem find_here (h : tree.find l path = .ok node) (hsteps : ∃ names, steps path = names ++ [Path.here]) :
    node = .directory := by
  obtain ⟨names, hsteps⟩ := hsteps
  obtain ⟨x, hlocate, hget⟩ := find_eq_ok_iff.mp h
  obtain ⟨-, -, -, hwalk⟩ := locate_eq_ok_iff.mp hlocate
  rw [hsteps, walk_append_iff] at hwalk
  obtain ⟨d, -, hhere⟩ := hwalk
  obtain ⟨hd, rfl⟩ := walk_here_iff.mp hhere
  rw [isDirectory, hget] at hd
  simpa using hd

end Tree

/-! ## The machine of a host -/

variable {h : Host} {dir path : Text} {node : Node}

theorem isFile_iff : h.machine.isFile path = true ↔ h.tree.Regular h.home path := by
  simp only [machine, Tree.Regular]
  cases h.tree.find h.home path with
  | error e => simp
  | ok node => cases node <;> simp [Node.IsRegular]

theorem present_of_find (hfind : h.tree.find h.home path = .ok node) : h.machine.present path = true := by
  obtain ⟨x, hlocate, -⟩ := Tree.find_eq_ok_iff.mp hfind
  show (h.tree.locate h.home path).isOk = true
  rw [hlocate]
  rfl

/-- Where a path starts that is followed from a directory. If that is not named, it is the directory of the
process. -/
def base? (h : Host) (dir : Text) : Option Location :=
  if dir = [] then some h.home else (h.tree.locate h.home dir).toOption

theorem base?_eq_some_iff (hdir : dir ≠ []) {d : Location} : h.base? dir = some d ↔ h.tree.locate h.home dir = .ok d := by
  rw [base?, if_neg hdir]
  cases h.tree.locate h.home dir <;> simp [Except.toOption]

/-- What stands at a relative path is what stands at it from its base, if the whole is not too long. -/
theorem find_base_iff (hrel : Path.isAbsolute path = false) (hne : path ≠ []) :
    h.tree.find h.home (Path.join dir path) = .ok node ↔
      (Utf8.encode (Path.join dir path)).length < Tree.pathBound ∧
        ∃ d, h.base? dir = some d ∧ h.tree.find d path = .ok node := by
  by_cases hdir : dir = []
  · subst hdir
    have hjoin : Path.join [] path = path := by simp [Path.join, hrel]
    have hbase : ∀ d, h.base? [] = some d ↔ h.home = d := by simp [base?]
    simp only [hjoin, hbase, exists_eq_left']
    refine ⟨fun hfind => ⟨?_, hfind⟩, And.right⟩
    obtain ⟨x, hlocate, -⟩ := Tree.find_eq_ok_iff.mp hfind
    exact (Tree.locate_eq_ok_iff.mp hlocate).2.2.1
  · simp only [Tree.find_join_iff hrel hne hdir, base?_eq_some_iff hdir]

/-- A machine sees a regular file at a relative path exactly if there is one from its base. -/
theorem isFile_join_iff (hrel : Path.isAbsolute path = false) (hne : path ≠ []) :
    h.machine.isFile (Path.join dir path) = true ↔
      (Utf8.encode (Path.join dir path)).length < Tree.pathBound ∧ ∃ d, h.base? dir = some d ∧ h.tree.Regular d path := by
  simp only [isFile_iff, Tree.Regular, find_base_iff hrel hne]
  constructor
  · rintro ⟨node, ⟨hlength, d, hbase, hfind⟩, hregular⟩
    exact ⟨hlength, d, hbase, node, hfind, hregular⟩
  · rintro ⟨hlength, d, hbase, node, hfind, hregular⟩
    exact ⟨node, ⟨hlength, d, hbase, hfind⟩, hregular⟩

end LineShell.Host
