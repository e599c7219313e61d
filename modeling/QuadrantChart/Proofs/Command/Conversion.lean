/-
This file proves what conversion keeps of a chart from its source to its document, and that the
command reports as many points as the document that it stores has ellipses.
-/

import QuadrantChart.Proofs.Command.Ending
import QuadrantChart.Proofs.Diagram.ChartContent
import QuadrantChart.Proofs.File.Tree

namespace QuadrantChart

/-- A document has one ellipse for each point of its chart, wherever its cells are. -/
theorem Source.convert_ellipses {source : Text} {config : LayoutConfig} {modified : Moment}
    {text : Text} (converted : convert source config modified = .ok text) :
    ∃ file, Reader.read? text = some file ∧
      file.cellsAnywhere.countP Element.isEllipse = (chart source).points.length := by
  obtain ⟨shapes, stamp, placed, -, -, rfl⟩ := Chart.render_ok converted
  refine ⟨_, Document.read_drawing stamp shapes, ?_⟩
  rw [Document.frame_cellsAnywhere, Shape.cells_ellipses, Layout.shapes_ellipses placed]

/-- A source is converted to a document that shows its chart, and a conversion that succeeds stores
a document with one ellipse for each of the points that it reports. -/
theorem conversion_keeps_content :
    (∀ (source : Text) (dimensions : Dimensions) (modified : Moment) (stamp : Text),
      dimensions.config.validate = .ok () → modified.stamp = .ok stamp →
        ∃ text file, Source.convert source dimensions.config modified = .ok text ∧
          Reader.read? text = some file ∧ (Source.chart source).ShownIn dimensions file) ∧
    ∀ (arguments : List Text) (request : ChartRequest) (environment : Environment)
        (input : Bytes) (tree : FileTree),
      Invocation.Asks arguments request → request.action = .convert → request.prints = false →
      ((Invocation.run arguments environment).run input tree).1.exitCode? = some 0 →
        ∃ source text file, request.Reads input tree source ∧
          ((Invocation.run arguments environment).run input tree).1.output =
            "Found ".toList ++ Text.ofNat (Source.chart source).points.length ++
              " data points.\n".toList ++
                ("Wrote ".toList ++ request.destination.written ++ ['\n']) ∧
          ((Invocation.run arguments environment).run input tree).2.Stores request.destination
            (Text.encodeUtf8 text) ∧
          Reader.read? text = some file ∧
          file.cellsAnywhere.countP Element.isEllipse = (Source.chart source).points.length := by
  constructor
  · intro source dimensions modified stamp valid stamped
    exact Source.convert_shows source valid stamped
  · intro arguments request environment input tree asks converts stores succeeds
    obtain ⟨session, -, started⟩ := Invocation.run_asks asks environment
    rw [started] at succeeds ⊢
    obtain ⟨setting, source, product, after, ⟨consistent, reads, made⟩, stored, done⟩ :=
      ChartRequest.start_run stores succeeds
    rw [done]
    rw [ChartSetting.product, (ChartRequest.setting_ok consistent).1, converts] at made
    obtain ⟨file, parsed, ellipses⟩ := Source.convert_ellipses made
    exact ⟨source, product, file, reads, rfl, FileTree.write_stores stored, parsed, ellipses⟩

/-- A source with one point, in the usual dimensions and on the command line. -/
theorem conversion_keeps_content_onePoint :
    let source := "A: [0.25, 0.75]".toList
    let dimensions : Dimensions := ⟨600, 100, 10, 40, 150, 20, 12, 10, 30⟩
    let environment : Environment := { now := ⟨⟨2024, 5, 1⟩, 12, 0, 0, 0, none⟩ }
    let arguments := ["convert".toList, "--text".toList, source]
    let request : ChartRequest := { action := .convert, text := .given source }
    let tree : FileTree := ⟨[], []⟩
    (dimensions.config.validate = .ok () ∧ Invocation.Asks arguments request ∧
      ((Invocation.run arguments environment).run [] tree).1.exitCode? = some 0) ∧
      (∃ text file, Source.convert source dimensions.config environment.now = .ok text ∧
        Reader.read? text = some file ∧ (Source.chart source).ShownIn dimensions file) ∧
      ∃ read text file, request.Reads [] tree read ∧
        ((Invocation.run arguments environment).run [] tree).2.Stores request.destination
          (Text.encodeUtf8 text) ∧
        Reader.read? text = some file ∧
        file.cellsAnywhere.countP Element.isEllipse = (Source.chart read).points.length := by
  intro source dimensions environment arguments request tree
  have valid : dimensions.config.validate = .ok () := by decide +kernel
  have asks : Invocation.Asks arguments request :=
    ⟨{ command := some (.chart request) }, by decide +kernel, rfl⟩
  have succeeds : ((Invocation.run arguments environment).run [] tree).1.exitCode? = some 0 := by
    decide +kernel
  obtain ⟨stamp, stamped⟩ :
      ∃ stamp, Moment.stamp ⟨⟨2024, 5, 1⟩, 12, 0, 0, 0, none⟩ = .ok stamp := by
    unfold Moment.stamp
    exact ⟨_, rfl⟩
  obtain ⟨converts, delivers⟩ := conversion_keeps_content
  obtain ⟨read, text, file, reads, -, stored, parsed, ellipses⟩ :=
    delivers arguments request environment [] tree asks rfl rfl succeeds
  exact ⟨⟨valid, asks, succeeds⟩, converts source dimensions environment.now stamp valid stamped,
    read, text, file, reads, stored, parsed, ellipses⟩

end QuadrantChart
