/-
This file proves that a path leads to what was written at it, that no other file is touched, and why
a path can be neither checked nor read.
-/

import QuadrantChart.File.Tree
import QuadrantChart.Proofs.Result

namespace QuadrantChart

namespace FileTree

variable {tree : FileTree} {location : List Text} {node : FileNode} {path : Path}

theorem put_nodes : (tree.put location node).nodes =
    (tree.nodes.filter fun entry => entry.1 != location) ++ [(location, node)] :=
  rfl

theorem node?_put_self : (tree.put location node).node? location = some node := by
  have earlier :
      (tree.nodes.filter fun entry => entry.1 != location).lookup location = none := by
    rw [List.lookup_eq_none_iff]
    intro entry kept
    have apart : entry.1 ≠ location := by simpa using (List.mem_filter.1 kept).2
    simpa using apart.symm
  simp [node?, put_nodes, List.lookup_append, earlier]

theorem node?_put_other {other : List Text} (apart : other ≠ location) :
    (tree.put location node).node? other = tree.node? other := by
  have differs : (other == location) = false := beq_false_of_ne apart
  have kept (nodes : List (List Text × FileNode)) :
      (nodes.filter fun entry => entry.1 != location).lookup other = nodes.lookup other := by
    induction nodes with
    | nil => rfl
    | cons first others inductionHypothesis =>
      obtain ⟨place, old⟩ := first
      by_cases replaced : place = location
      · simp [List.lookup_cons, replaced, differs, inductionHypothesis]
      · simp [List.lookup_cons, replaced, inductionHypothesis]
  simp [node?, put_nodes, List.lookup_append, List.lookup_cons, kept, differs]

/-- Paths lead through directories only, so that they do not change when a node is put where no
directory is. -/
theorem follow_put (notDirectory : ∀ access, tree.node? location ≠ some (.directory access))
    {start : List Text} {parts : List Text} {found : List Text}
    (leads : tree.follow start parts = .ok found) :
    (tree.put location node).follow start parts = .ok found := by
  induction parts generalizing start with
  | nil => exact leads
  | cons part parts inductionHypothesis =>
    rw [follow] at leads ⊢
    cases here : tree.node? start with
    | none => simp [here] at leads
    | some at_ =>
      cases at_ with
      | file content access => simp [here] at leads
      | directory access =>
        have apart : start ≠ location := by
          rintro rfl
          exact notDirectory access here
        rw [node?_put_other apart, here]
        simp only [here] at leads ⊢
        split_ifs at leads ⊢
        · exact inductionHypothesis leads
        · exact inductionHypothesis leads

theorem writeAccess_notDirectory {access : Access}
    (opened : tree.writeAccess location = .ok access) :
    ∀ other, tree.node? location ≠ some (.directory other) := by
  intro other isDirectory
  rw [writeAccess, isDirectory] at opened
  cases opened

/-- Writing puts a file where the path leads, unless a directory is there, and the path still leads
there. -/
theorem write_ok {content : Bytes} {after : FileTree}
    (written : tree.write path content = .ok after) :
    ∃ location access, after.locate path = .ok location ∧
      after = tree.put location (.file content access) := by
  obtain ⟨location, located, remaining⟩ := Result.bind_ok.1 written
  obtain ⟨access, opened, put⟩ := Result.bind_ok.1 remaining
  cases put
  refine ⟨location, access, ?_, rfl⟩
  have notDirectory := writeAccess_notDirectory opened
  rw [locate] at located ⊢
  split_ifs at located ⊢
  · exact follow_put notDirectory located
  · exact follow_put notDirectory located

/-- A path leads to a file with a content, whoever may read it. -/
def Stores (tree : FileTree) (path : Path) (content : Bytes) : Prop :=
  ∃ location access, tree.locate path = .ok location ∧
    tree.node? location = some (.file content access)

/-- A file that was written has the content that was written. -/
theorem write_stores {content : Bytes} {after : FileTree}
    (written : tree.write path content = .ok after) : after.Stores path content := by
  obtain ⟨location, access, leads, equal⟩ := write_ok written
  refine ⟨location, access, leads, ?_⟩
  rw [equal]
  exact node?_put_self

/-- Two trees that differ at most in what a path leads to. -/
def DiffersAt (before after : FileTree) (path : Path) : Prop :=
  after.workingDirectory = before.workingDirectory ∧
    ∃ location, after.locate path = .ok location ∧
      ∀ other, other ≠ location → after.node? other = before.node? other

/-- Writing a file leaves every other location as it was. -/
theorem write_differsAt {content : Bytes} {after : FileTree}
    (written : tree.write path content = .ok after) : tree.DiffersAt after path := by
  obtain ⟨location, access, leads, equal⟩ := write_ok written
  refine ⟨by rw [equal]; rfl, location, leads, fun other apart => ?_⟩
  rw [equal]
  exact node?_put_other apart

/-- What keeps a path from leading anywhere. -/
theorem follow_error {start parts : List Text} {fault : FileFault}
    (lost : tree.follow start parts = .error fault) :
    fault ∈ [.missing, .notDirectory, .denied, .nameTooLong] := by
  induction parts generalizing start with
  | nil => cases lost
  | cons part parts inductionHypothesis =>
    rw [follow] at lost
    cases here : tree.node? start with
    | none => simp_all
    | some at_ =>
      cases at_ with
      | file content access => simp_all
      | directory access =>
        simp only [here] at lost
        split_ifs at lost
        · simp_all
        · exact inductionHypothesis lost
        · simp_all
        · exact inductionHypothesis lost

theorem locate_error {fault : FileFault} (lost : tree.locate path = .error fault) :
    fault ∈ [.missing, .notDirectory, .denied, .nameTooLong, .nullCharacter] := by
  rw [locate] at lost
  split_ifs at lost
  · cases lost
    decide
  · cases lost
    decide
  · exact List.mem_append_left [.nullCharacter] (follow_error lost)
  · exact List.mem_append_left [.nullCharacter] (follow_error lost)

/-- A check finds that there is no file, or it cannot tell. -/
theorem check_some {fault : FileFault} (checked : tree.check path = some fault) :
    fault ∈ [.missing, .notDirectory, .denied, .nameTooLong, .nullCharacter] := by
  rw [check] at checked
  cases located : tree.locate path with
  | error lost =>
    rw [located] at checked
    cases checked
    exact locate_error located
  | ok location =>
    simp only [located] at checked
    split_ifs at checked
    cases checked
    decide

theorem check_none :
    tree.check path = none ↔
      ∃ location node, tree.locate path = .ok location ∧ tree.node? location = some node := by
  rw [check]
  cases located : tree.locate path with
  | error lost => simp
  | ok location => simp [Option.isSome_iff_exists]

/-- What is there and is not read may not be opened, or it is a directory. -/
theorem read_error {fault : FileFault} (checked : tree.check path = none)
    (unread : tree.read path = .error fault) : fault = .denied ∨ fault = .isDirectory := by
  obtain ⟨location, node, located, there⟩ := check_none.1 checked
  cases node with
  | file content access | directory access =>
    cases allowed : access.read <;>
      simp_all [read, bind, Except.bind, throw, throwThe, MonadExceptOf.throw, pure, Except.pure]

/-- What can be read is there. -/
theorem check_read {content : Bytes} (opened : tree.read path = .ok content) :
    tree.check path = none := by
  obtain ⟨location, located, remaining⟩ := Result.bind_ok.1 opened
  cases there : tree.node? location with
  | none =>
    rw [there] at remaining
    cases remaining
  | some node => exact check_none.2 ⟨location, node, located, there⟩

end FileTree

end QuadrantChart
