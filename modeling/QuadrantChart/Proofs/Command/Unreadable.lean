/-
This file proves how a run reports an input file that it cannot read.
-/

import QuadrantChart.Proofs.Command.Ending

namespace QuadrantChart

namespace FileTree

/-- A file that can be opened and holds UTF-8. -/
def IsReadable (tree : FileTree) (path : Path) : Prop :=
  ∃ bytes source, tree.read path = .ok bytes ∧ Text.decodeUtf8 bytes = .ok source

/-- A file that is known to be missing, or that is there and cannot be opened. -/
inductive IsClosed (tree : FileTree) (path : Path) : Prop where
  | absent {fault : FileFault} (checked : tree.check path = some fault)
      (known : fault ∈ [.missing, .notDirectory, .nullCharacter])
  | unopened {fault : FileFault} (found : tree.check path = none)
      (unread : tree.read path = .error fault)

/-- A file behind a directory that may not be searched or with a name that is too long, so that
nothing is known of it, or a file with bytes that are not UTF-8. -/
inductive IsGarbled (tree : FileTree) (path : Path) : Prop where
  | unknown {fault : FileFault} (checked : tree.check path = some fault)
      (unknown : fault ∈ [.denied, .nameTooLong])
  | content {bytes : Bytes} {fault : Text.Utf8Fault} (opened : tree.read path = .ok bytes)
      (undecodable : Text.decodeUtf8 bytes = .error fault)

/-- Every file is of one of the three kinds. -/
theorem readable_or_not (tree : FileTree) (path : Path) :
    tree.IsReadable path ∨ tree.IsClosed path ∨ tree.IsGarbled path := by
  cases checked : tree.check path with
  | some fault =>
    have kinds := check_some checked
    by_cases known : fault ∈ [.missing, .notDirectory, .nullCharacter]
    · exact .inr (.inl (.absent checked known))
    · exact .inr (.inr (.unknown checked (by simp_all)))
  | none =>
    cases opened : tree.read path with
    | error fault => exact .inr (.inl (.unopened checked opened))
    | ok bytes =>
      cases decoded : Text.decodeUtf8 bytes with
      | ok source => exact .inl ⟨bytes, source, opened, decoded⟩
      | error fault => exact .inr (.inr (.content opened decoded))

/-- A file that may not be opened is there, and nothing is known of one behind a directory that may
not be searched. -/
example :
    let tree : FileTree := ⟨[], [(["kept".toList], .directory { search := false }),
      (["chart.mmd".toList], .file [] { read := false })]⟩
    tree.check (.ofText "chart.mmd".toList) = none ∧
      tree.read (.ofText "chart.mmd".toList) = .error .denied ∧
      tree.check (.ofText "kept/chart.mmd".toList) = some .denied := by
  decide +kernel

end FileTree

/-- A run that ends with a report before it prints, logs or stores anything. -/
structure Outcome.Refuses (result : Outcome × FileTree) (tree : FileTree) (code : ReportCode)
    (file : Option Text) : Prop where
  untouched : result.2 = tree
  reported : ∃ failure, result.1 = { ending := .failed failure } ∧ failure.report.code = code ∧
    failure.report.file = file
  exitCode : result.1.exitCode? = some code.exitCode

namespace ChartRequest

variable {request : ChartRequest} {session : Session} {input : Bytes} {tree : FileTree}

theorem fail_refuses (session : Session) (report : Report) :
    Outcome.Refuses ((session.fail [] [] report).run input tree) tree report.code report.file :=
  ⟨rfl, ⟨_, rfl, rfl, rfl⟩, rfl⟩

/-- What is known to be missing is reported with its path. -/
theorem ofCheck_known (path : Path) {fault : FileFault}
    (known : fault ∈ [.missing, .notDirectory, .nullCharacter]) :
    (Report.ofCheck path fault).code = .reading ∧
      (Report.ofCheck path fault).file = some path.written := by
  simp only [List.mem_cons, List.not_mem_nil, or_false] at known
  rcases known with rfl | rfl | rfl <;> exact ⟨rfl, rfl⟩

theorem ofCheck_unknown (path : Path) {fault : FileFault}
    (unknown : fault ∈ [.denied, .nameTooLong]) :
    (Report.ofCheck path fault).code = .unexpected ∧ (Report.ofCheck path fault).file = none := by
  simp only [List.mem_cons, List.not_mem_nil, or_false] at unknown
  rcases unknown with rfl | rfl <;> exact ⟨rfl, rfl⟩

/-- What is there and cannot be opened is reported with its path. -/
theorem ofReading_unopened {path : Path} {fault : FileFault} (found : tree.check path = none)
    (unread : tree.read path = .error fault) :
    (Report.ofReading path fault).code = .reading ∧
      (Report.ofReading path fault).file = some path.written := by
  rcases FileTree.read_error found unread with rfl | rfl <;> exact ⟨rfl, rfl⟩

/-- Where a product is delivered, no file is reported as unread. -/
theorem deliver_notReading {setting : ChartSetting} {source : Text} {failure : Failure}
    (failed : ((request.deliver setting session source).run input tree).1.failure? =
      some failure) : failure.report.code ≠ .reading := by
  have delivers := request.deliver_run setting session source input tree
  generalize (request.deliver setting session source).run input tree = result at delivers failed
  generalize setting.product session.now source = product at delivers
  rw [Outcome.failure?_some] at failed
  cases delivers with
  | endless | printed | stored => cases failed
  | unmade | unprinted | untold =>
    cases failed
    exact ReportCode.noConfusion
  | @unstored _ fault =>
    cases failed
    cases fault <;> exact ReportCode.noConfusion

end ChartRequest

namespace Invocation

variable {arguments : List Text} {request : ChartRequest} {setting : ChartSetting} {name : Text}

/-- A run whose input file is missing or cannot be opened reports that with the path of the file.
Where it cannot tell whether the file is there, or where the bytes are not UTF-8, it reports a fault
of its own instead. It prints and stores nothing in either case, and a file that can be read is
never reported as unread. -/
theorem run_reports_unread (asks : Asks arguments request) (named : request.input = some name)
    (noText : request.text = .missing) (consistent : request.setting = .ok setting)
    (environment : Environment) (input : Bytes) (tree : FileTree) :
    let result := (run arguments environment).run input tree
    let path := Path.ofText name
    (tree.IsReadable path ∨ tree.IsClosed path ∨ tree.IsGarbled path) ∧
      (tree.IsClosed path → Outcome.Refuses result tree .reading (some path.written)) ∧
      (tree.IsGarbled path → Outcome.Refuses result tree .unexpected none) ∧
      (tree.IsReadable path → ∀ failure, result.1.failure? = some failure →
        failure.report.code ≠ .reading) := by
  obtain ⟨session, -, started⟩ := run_asks asks environment
  have reads := ChartRequest.withSource_file named noText session (request.deliver setting session)
    input tree
  simp only [started, ChartRequest.start, consistent, reads]
  refine ⟨tree.readable_or_not _, ?_, ?_, ?_⟩
  · rintro (⟨checked, known⟩ | ⟨found, unread⟩)
    · obtain ⟨code, file⟩ := ChartRequest.ofCheck_known (.ofText name) known
      rw [checked, ← code, ← file]
      exact ChartRequest.fail_refuses session _
    · obtain ⟨code, file⟩ := ChartRequest.ofReading_unopened found unread
      rw [found, unread, ← code, ← file]
      exact ChartRequest.fail_refuses session _
  · rintro (⟨checked, unknown⟩ | ⟨opened, undecodable⟩)
    · obtain ⟨code, file⟩ := ChartRequest.ofCheck_unknown (.ofText name) unknown
      rw [checked, ← code, ← file]
      exact ChartRequest.fail_refuses session _
    · rw [FileTree.check_read opened, opened]
      simp only [ChartRequest.withDecoded, undecodable]
      exact ChartRequest.fail_refuses session _
  · rintro ⟨bytes, source, opened, decoded⟩ failure failed
    rw [FileTree.check_read opened, opened] at failed
    simp only [ChartRequest.withDecoded, decoded] at failed
    exact ChartRequest.deliver_notReading failed

/-- A file that is missing is reported as unread. -/
theorem run_reports_unread_missing :
    let arguments := ["convert".toList, "./charts//one.mmd".toList]
    let request : ChartRequest := { action := .convert, input := some "./charts//one.mmd".toList }
    let environment : Environment := { now := ⟨⟨2024, 5, 1⟩, 12, 30, 45, 123456, none⟩ }
    let tree : FileTree := ⟨[], [(["charts".toList], .directory)]⟩
    (Asks arguments request ∧ request.text = .missing ∧
        request.setting = .ok ⟨.convert, .double 1, {}⟩) ∧
      Outcome.Refuses ((run arguments environment).run [] tree) tree .reading
        (some "charts/one.mmd".toList) := by
  intro arguments request environment tree
  have asks : Asks arguments request :=
    ⟨{ command := some (.chart request) }, by decide +kernel, rfl⟩
  have consistent : request.setting = .ok ⟨.convert, .double 1, {}⟩ := by decide +kernel
  have missing : tree.check (.ofText "./charts//one.mmd".toList) = some .missing := by
    decide +kernel
  have written : (Path.ofText "./charts//one.mmd".toList).written = "charts/one.mmd".toList := by
    decide +kernel
  obtain ⟨-, refuses, -⟩ := run_reports_unread asks rfl rfl consistent environment [] tree
  rw [← written]
  exact ⟨⟨asks, rfl, consistent⟩, refuses (.absent missing (by decide))⟩

/-- A file with a byte that is not UTF-8 cannot be read, and yet it is not reported as unread. -/
theorem run_reports_invalidByte :
    let path := Path.ofText "chart.mmd".toList
    let environment : Environment := { now := ⟨⟨2024, 5, 1⟩, 12, 30, 45, 123456, none⟩ }
    let tree : FileTree := ⟨[], [(["chart.mmd".toList], .file [0xFF])]⟩
    let outcome :=
      ((run ["convert".toList, "chart.mmd".toList] environment).run [] tree).1
    ¬tree.IsReadable path ∧ outcome.exitCode? = some 1 ∧
      outcome.failure?.map (fun failure => (failure.report.code, failure.report.file)) =
        some (.unexpected, none) := by
  intro path environment tree outcome
  have opened : tree.read path = .ok [0xFF] := by decide +kernel
  refine ⟨?_, by decide +kernel, by decide +kernel⟩
  rintro ⟨bytes, source, again, decoded⟩
  cases opened.symm.trans again
  cases decoded

end Invocation

end QuadrantChart
