/-
This file proves that a conversion makes the same document wherever its source comes from and
wherever its document goes.
-/

import QuadrantChart.Proofs.Command.Channels
import QuadrantChart.Proofs.Diagram.ChartContent
import QuadrantChart.Proofs.File.Tree
import QuadrantChart.Proofs.Source.LineEnds
import QuadrantChart.Proofs.Text.Utf8

namespace QuadrantChart

theorem givenLayout_moderate (canvasSize padding : Option WrittenNumber) :
    (givenLayout canvasSize padding).Moderate := by
  refine LayoutConfig.moderate_of_within ?_ ?_
  · cases canvasSize with
    | none => exact Number.within_integer (by decide)
    | some number => exact Number.within_double _ _
  · cases padding with
    | none => exact Number.within_integer (by decide)
    | some number => exact Number.within_double _ _

namespace Conversion

variable {conversion : Conversion} {source : Text} {session : Session} {environment : Environment}
  {input : Bytes} {tree : FileTree}

/-- With valid dimensions, a conversion contradicts itself nowhere. -/
theorem setting_given (conversion : Conversion) (source : Text)
    (valid : conversion.config.validate = .ok ()) :
    (conversion.request source).setting = .ok ⟨.convert, .double 1, conversion.config⟩ := by
  have apart : ((conversion.request source).prints && (conversion.request source).output.isSome) =
      false := by
    cases document : conversion.document <;> simp [request, document]
  have configured : (conversion.request source).readConfig = .ok conversion.config := by
    have same : ({ canvasSize := conversion.config.canvasSize
                   padding := conversion.config.padding } : LayoutConfig) = conversion.config := rfl
    simp only [ChartRequest.readConfig, request, same, valid]
  rw [ChartRequest.setting, apart, configured]
  rfl

/-- A run goes on with the source that its channel carries, or with the source that has unified line
ends. -/
theorem withSource_carries (conversion : Conversion) (session : Session)
    (terminal : session.terminal = environment.terminal)
    (carries : conversion.source.Carries source environment input tree)
    (next : Text → Interaction) :
    ∃ read, (read = source ∨ read = Text.unifyLineEnds source) ∧
      ((conversion.request source).withSource session next).run input tree =
        (next read).run input tree := by
  have decodes : ChartRequest.withDecoded session (Text.encodeUtf8 source) next =
      next (Text.unifyLineEnds source) := by
    rw [ChartRequest.withDecoded, Text.decodeUtf8_encodeUtf8]
  cases channel : conversion.source with
  | file name =>
    rw [channel] at carries
    have named : (conversion.request source).input = some name := by simp only [request, channel]
    have noText : (conversion.request source).text = .missing := by simp only [request, channel]
    refine ⟨_, .inr rfl, ?_⟩
    rw [ChartRequest.withSource_opened named noText carries, decodes]
  | option =>
    refine ⟨_, .inl rfl, ?_⟩
    simp only [ChartRequest.withSource, request, channel]
  | standardInput =>
    rw [channel] at carries
    obtain ⟨notTerminal, rfl⟩ := carries
    have piped : session.terminal = false := terminal.trans notTerminal
    refine ⟨_, .inr rfl, ?_⟩
    simp only [ChartRequest.withSource, request, channel, piped, Interaction.run, decodes,
      Bool.false_eq_true, if_false]

theorem prints_iff (conversion : Conversion) (source : Text) :
    (conversion.request source).prints = conversion.document.path?.isNone := by
  cases document : conversion.document <;> simp [request, document, DocumentChannel.path?]

theorem destination_path {path : Path} (stores : conversion.document.path? = some path)
    (source : Text) : (conversion.request source).destination = path := by
  cases document : conversion.document with
  | standardOutput =>
    rw [document] at stores
    cases stores
  | file name =>
    rw [document] at stores
    cases stores
    simp only [ChartRequest.destination, request, document]
  | usualFile =>
    rw [document] at stores
    cases stores
    simp only [ChartRequest.destination, request, document]

/-- The product goes where the document is meant to go. -/
theorem deliver_receives {setting : ChartSetting} {read product : Text}
    (made : setting.product session.now read = .ok product) :
    conversion.document.Receives product session.encoding tree
      (((conversion.request source).deliver setting session read).run input tree) := by
  have isPrinted := conversion.prints_iff source
  have delivers := (conversion.request source).deliver_run setting session read input tree
  rw [made] at delivers
  generalize ((conversion.request source).deliver setting session read).run input tree = result
    at delivers ⊢
  rw [DocumentChannel.Receives]
  cases place : conversion.document.path? with
  | none =>
    intro takes
    rw [place, Option.isNone_none] at isPrinted
    cases delivers with
    | printed => exact ⟨rfl, rfl, rfl⟩
    | unprinted _ _ lacks => cases lacks.symm.trans takes
    | unstored stores | stored stores | untold stores => cases isPrinted.symm.trans stores
  | some path =>
    intro after stored
    rw [place, Option.isNone_some] at isPrinted
    rw [← destination_path place source] at stored ⊢
    have content := FileTree.write_stores stored
    cases delivers with
    | printed prints | unprinted prints => cases isPrinted.symm.trans prints
    | unstored _ fails => cases fails.symm.trans stored
    | stored _ written =>
      cases written.symm.trans stored
      exact ⟨fun _ => rfl, rfl, content⟩
    | untold _ written lacks =>
      cases written.symm.trans stored
      exact ⟨fun takes => (nomatch lacks.symm.trans takes), rfl, content⟩

/-- The document of a source goes where it is meant to go, wherever the source comes from. -/
theorem start_receives (conversion : Conversion) (session : Session)
    (paired : source.ReturnsPaired) (valid : conversion.config.validate = .ok ()) {document : Text}
    (made : Source.convert source conversion.config session.now = .ok document)
    (terminal : session.terminal = environment.terminal)
    (carries : conversion.source.Carries source environment input tree) :
    conversion.document.Receives document session.encoding tree
      (((conversion.request source).start session).run input tree) := by
  obtain ⟨read, same, goesOn⟩ := conversion.withSource_carries session terminal carries
    ((conversion.request source).deliver ⟨.convert, .double 1, conversion.config⟩ session)
  have product : Source.convert read conversion.config session.now = .ok document := by
    rcases same with rfl | rfl
    · exact made
    · rw [Source.convert, Source.chart_unifyLineEnds paired]
      exact made
  simp only [ChartRequest.start, setting_given conversion source valid, goesOn]
  exact deliver_receives product

end Conversion

/-- A conversion makes one document from whichever channel carries its source, and passes it to
whichever channel the document goes to. Only where an option carries it may the source not be a
separator. -/
theorem conversion_channels_agree (source : Text) (paired : source.ReturnsPaired)
    (canvasSize padding : Option WrittenNumber)
    (valid : (givenLayout canvasSize padding).validate = .ok ()) (environment : Environment)
    (stamp : Text) (stamped : environment.now.stamp = .ok stamp) :
    ∃ document,
      Source.convert source (givenLayout canvasSize padding) environment.now = .ok document ∧
      ∀ (channel : SourceChannel) (target : DocumentChannel),
        (channel.Spells source → target.IsSpelled →
          Invocation.Asks (Conversion.arguments ⟨channel, target, canvasSize, padding⟩ source)
            (Conversion.request ⟨channel, target, canvasSize, padding⟩ source)) ∧
        ∀ (arguments : List Text) (input : Bytes) (tree : FileTree),
          Invocation.Asks arguments
            (Conversion.request ⟨channel, target, canvasSize, padding⟩ source) →
          channel.Carries source environment input tree →
          target.Receives document environment.encoding tree
            ((Invocation.run arguments environment).run input tree) := by
  obtain ⟨document, made⟩ :=
    Source.convert_made source (givenLayout_moderate canvasSize padding) valid stamped
  refine ⟨document, made, fun channel target => ⟨fun spells isSpelled => ?_, ?_⟩⟩
  · exact Conversion.arguments_ask spells isSpelled
  · rintro arguments input tree ⟨invocation, asked, command⟩ carries
    rw [Invocation.run_read asked command]
    exact Conversion.start_receives ⟨channel, target, canvasSize, padding⟩
      (invocation.session arguments environment) paired valid made rfl carries

/-- A source with two kinds of line ends passes through all channels. -/
theorem conversion_channels_agree_onePoint :
    let source := "title Reach\r\nA: [0.25, 0.75]\n".toList
    let number : WrittenNumber := ⟨"3e2".toList, 300, by decide +kernel⟩
    let environment : Environment := { now := ⟨⟨2024, 5, 1⟩, 12, 30, 45, 123456, none⟩ }
    let tree : FileTree := ⟨[], [(["chart.mmd".toList], .file (Text.encodeUtf8 source))]⟩
    let fromFile := ["convert".toList, "chart.mmd".toList, "--canvas-size=3e2".toList,
      "--stdout".toList]
    let fromOption := ["convert".toList, "--text=".toList ++ source, "--canvas-size=3e2".toList,
      "-o".toList, ['b']]
    let fromInput := ["convert".toList, "--canvas-size=3e2".toList]
    (Text.ReturnsPaired source ∧ (givenLayout (some number) none).validate = .ok () ∧
        environment.now.stamp = .ok "2024-05-01T12:30:45.123Z".toList) ∧
      ∃ document, Source.convert source (givenLayout (some number) none) environment.now =
          .ok document ∧
        ((Invocation.run fromFile environment).run [] tree).1.output = document ∧
        ((Invocation.run fromOption environment).run [] tree).2.Stores (.ofText ['b'])
          (Text.encodeUtf8 document) ∧
        ((Invocation.run fromInput environment).run (Text.encodeUtf8 source) tree).2.Stores
          (.ofText "chart.drawio".toList) (Text.encodeUtf8 document) := by
  intro source number environment tree fromFile fromOption fromInput
  have paired : Text.ReturnsPaired source := by decide
  have valid : (givenLayout (some number) none).validate = .ok () := by decide +kernel
  have stamped : environment.now.stamp = .ok "2024-05-01T12:30:45.123Z".toList := by
    decide +kernel
  obtain ⟨document, made, channels⟩ :=
    conversion_channels_agree source paired (some number) none valid environment _ stamped
  refine ⟨⟨paired, valid, stamped⟩, document, made, ?_, ?_, ?_⟩
  · obtain ⟨asks, receives⟩ := channels (.file "chart.mmd".toList) .standardOutput
    have spelled : Conversion.arguments
        ⟨.file "chart.mmd".toList, .standardOutput, some number, none⟩ source = fromFile := by
      decide +kernel
    rw [spelled] at asks
    have found : tree.read (.ofText "chart.mmd".toList) = .ok (Text.encodeUtf8 source) := by
      decide +kernel
    have takes : environment.encoding.takes document = true := Encoding.utf8_takes document
    obtain ⟨-, printed, -⟩ := receives _ [] tree (asks ⟨by decide, by decide⟩ trivial) found takes
    exact printed
  · obtain ⟨asks, receives⟩ := channels .option (.file ['b'])
    have spelled : Conversion.arguments ⟨.option, .file ['b'], some number, none⟩ source =
        fromOption := by
      decide +kernel
    rw [spelled] at asks
    have apart : source ≠ CommandLine.separatorText := by decide
    have written (content : Bytes) : ∃ after, tree.write (.ofText ['b']) content = .ok after :=
      ⟨_, rfl⟩
    obtain ⟨after, stored⟩ := written (Text.encodeUtf8 document)
    obtain ⟨-, left, content⟩ :=
      receives _ [] tree (asks apart ⟨by decide, by decide⟩) trivial after stored
    rw [left]
    exact content
  · obtain ⟨asks, receives⟩ := channels .standardInput .usualFile
    have spelled : Conversion.arguments ⟨.standardInput, .usualFile, some number, none⟩ source =
        fromInput := by
      decide +kernel
    rw [spelled] at asks
    have written (content : Bytes) :
        ∃ after, tree.write (.ofText "chart.drawio".toList) content = .ok after :=
      ⟨_, rfl⟩
    obtain ⟨after, stored⟩ := written (Text.encodeUtf8 document)
    obtain ⟨-, left, content⟩ :=
      receives _ (Text.encodeUtf8 source) tree (asks trivial trivial) ⟨rfl, rfl⟩ after stored
    rw [left]
    exact content

/-- A source that is a separator passes through the standard input, and not through an option. -/
theorem conversion_option_drops_separator :
    let environment : Environment := { now := ⟨⟨2024, 5, 1⟩, 12, 30, 45, 123456, none⟩ }
    let tree : FileTree := ⟨[], []⟩
    let run (arguments : List String) (input : Bytes) :=
      ((Invocation.run (arguments.map String.toList) environment).run input tree).1
    Text.ReturnsPaired "--".toList ∧ ({} : LayoutConfig).validate = .ok () ∧
      (run ["convert", "--stdout"] (Text.encodeUtf8 "--".toList)).exitCode? = some 0 ∧
      (run ["convert", "--text=--", "--stdout"] []).exitCode? = some 1 ∧
      (run ["convert", "--text=--", "--stdout"] []).output = [] := by
  intro environment tree run
  have paired : Text.ReturnsPaired "--".toList := by decide
  have valid : (givenLayout none none).validate = .ok () := by decide +kernel
  have stamped : environment.now.stamp = .ok "2024-05-01T12:30:45.123Z".toList := by
    decide +kernel
  obtain ⟨document, made⟩ :=
    Source.convert_made "--".toList (givenLayout_moderate none none) valid stamped
  let conversion : Conversion := ⟨.standardInput, .standardOutput, none, none⟩
  have read : Invocation.ofArguments (["convert", "--stdout"].map String.toList) =
      .ok { command := some (.chart (conversion.request "--".toList)) } := by
    decide +kernel
  have receives (session : Session) (now : session.now = environment.now)
      (piped : session.terminal = environment.terminal) :
      conversion.document.Receives document session.encoding tree
        (((conversion.request "--".toList).start session).run (Text.encodeUtf8 "--".toList) tree) :=
    conversion.start_receives session paired valid (now ▸ made) piped ⟨rfl, rfl⟩
  refine ⟨paired, valid, ?_, by decide +kernel, by decide +kernel⟩
  simp only [run, Invocation.run_read read rfl]
  exact (receives _ rfl rfl (Encoding.utf8_takes document)).1

end QuadrantChart
