/-
This file proves that the text of a chart depends on the clock in its time stamp only, which stands
as it is between two texts that are the same at all moments.
-/

import QuadrantChart.Proofs.Diagram.Content

namespace QuadrantChart

/-- A digit is no character of markup. -/
theorem Text.digit_unescaped (char : Char) (digit : char.isDigit = true) :
    Element.escapeChar char = [char] := by
  unfold Element.escapeChar
  split <;> first | rfl | cases digit

namespace Element

theorem escape_plain (text : Text) (plain : ∀ char ∈ text, escapeChar char = [char]) :
    escape text = text :=
  (List.flatMap_congr plain).trans (List.flatMap_singleton' text)

/-- An indented document begins with the tag of its root, behind which the children have lines of
their own. -/
theorem document_indent (name : Text) (attributes : Attributes) (child : Element)
    (children : List Element) :
    (plain name attributes (child :: children)).indent.document =
      "<?xml version=\"1.0\" encoding=\"UTF-8\"?>\n".toList ++ ('<' :: head name attributes) ++
        '>' :: lineBreak 1 ++ writtenAll (indentChildren 0 (child :: children)) ++
        '<' :: '/' :: name ++ ['>', '\n'] := by
  have space : escapeContent (respaced (lineBreak 1) []) = lineBreak 1 := by
    rw [respaced_blank _ _ Text.isBlank_nil]
    rfl
  have between : (respaced (lineBreak 1) []).isEmpty = false := by
    rw [respaced_blank _ _ Text.isBlank_nil]
    rfl
  have nothing : escapeContent [] = [] := rfl
  unfold document
  generalize "<?xml version=\"1.0\" encoding=\"UTF-8\"?>\n".toList = declaration
  rw [indent, plain, indentFrom, written, space, between, nothing, Bool.false_and,
    if_neg Bool.false_ne_true]
  simp only [List.append_assoc, List.cons_append, List.nil_append, List.append_nil]

end Element

/-- A time stamp consists of digits and of marks between them, which stand for themselves in an
attribute. -/
theorem Moment.stamp_unescaped {moment : Moment} {stamp : Text}
    (stamped : moment.stamp = .ok stamp) : Element.escape stamp = stamp := by
  have number (value : Nat) : Element.escape (Text.ofNat value) = Text.ofNat value := by
    apply Element.escape_plain
    exact fun char member => Text.digit_unescaped char (Text.ofNat_isDigit value char member)
  have field (width value : Nat) :
      Element.escape (Text.padded width value) = Text.padded width value := by
    apply Element.escape_plain
    exact fun char member => Text.digit_unescaped char (Text.padded_isDigit width value char member)
  obtain ⟨universal, -, text⟩ := Result.bind_ok.1 stamped
  cases text
  unfold Element.escape at number field ⊢
  simp only [Moment.text, List.flatMap_append, List.flatMap_cons, number, field]
  rfl

namespace Document

/-- What stands before the time stamp in the text of a document. -/
def opening : Text :=
  "<?xml version=\"1.0\" encoding=\"UTF-8\"?>\n".toList ++
    "<mxfile host=\"Electron\" modified=\"".toList

theorem head_stamped {stamp : Text} (plain : Element.escape stamp = stamp) :
    '<' :: Element.head "mxfile".toList (fileAttributes stamp) =
      "<mxfile host=\"Electron\" modified=\"".toList ++
        (stamp ++ '"' :: " agent=\"MermaidCLI\" type=\"device\"".toList) := by
  simp only [Element.head, fileAttributes, List.flatMap_cons, List.flatMap_nil,
    Element.attributeText, plain, List.cons_append, List.append_assoc, List.nil_append]
  rfl

/-- The cells of a document have no part in its first tag, nor the time stamp in what follows. -/
theorem drawing_around (shapes : List Shape) :
    ∃ after, ∀ stamp, Element.escape stamp = stamp →
      drawing stamp shapes = opening ++ stamp ++ '"' :: after := by
  obtain ⟨diagram, parts⟩ : ∃ diagram, ∀ stamp, frame stamp (Shape.cells shapes) =
      .plain "mxfile".toList (fileAttributes stamp) [diagram] := ⟨_, fun _ => rfl⟩
  refine ⟨" agent=\"MermaidCLI\" type=\"device\"".toList ++ ('>' :: Element.lineBreak 1 ++
    Element.writtenAll (Element.indentChildren 0 [diagram]) ++ '<' :: '/' :: "mxfile".toList ++
    ['>', '\n']), fun stamp plain => ?_⟩
  have indented : drawing stamp shapes =
      (Element.plain "mxfile".toList (fileAttributes stamp) [diagram]).indent.document :=
    congrArg (fun file => file.indent.document) (parts stamp)
  have written := indented.trans (Element.document_indent _ _ _ _)
  simp only [head_stamped plain] at written
  refine written.trans ?_
  unfold opening
  simp only [List.append_assoc, List.cons_append]

end Document

namespace Chart

/-- Whatever moment a chart is drawn at, whether it is given or the present one, its text is the
time stamp between two texts that do not depend on the moment. Without a time stamp there is no
text. -/
theorem render_around_stamp {chart : Chart} {config : LayoutConfig} {pinned : Moment} {text : Text}
    (rendered : chart.render config pinned = .ok text) :
    ∃ before after, before = Document.opening ∧ ∀ (given : Option Moment) (now : Moment),
      match (given.getD now).stamp with
      | .ok stamp => chart.render config (given.getD now) = .ok (before ++ stamp ++ '"' :: after)
      | .error fault => chart.render config (given.getD now) = .error fault := by
  obtain ⟨shapes, -, placed, writable, -, -⟩ := render_ok rendered
  obtain ⟨after, around⟩ := Document.drawing_around shapes
  refine ⟨_, after, rfl, fun given now => ?_⟩
  generalize given.getD now = modified
  have drawn : chart.render config modified =
      modified.stamp.map fun stamp => Document.drawing stamp shapes := by
    rw [render, placed]
    exact serialize_drawing shapes modified writable
  rw [drawn]
  cases stamped : modified.stamp with
  | error fault => rfl
  | ok stamp => exact congrArg Except.ok (around stamp (Moment.stamp_unescaped stamped))

/-- A chart that holds a time stamp itself, at a moment whose offset leads back to the year before,
and at one whose offset leads out of the calendar. -/
theorem render_around_stamp_offset :
    let chart : Chart :=
      { title := "modified=\"2024-05-01T12:00:00.000Z\"".toList, points := [⟨"<&>".toList, 0, 1⟩] }
    let noon : Moment := ⟨⟨2024, 5, 1⟩, 12, 0, 0, 0, none⟩
    let early : Moment := ⟨⟨2024, 1, 1⟩, 0, 10, 0, 123456, some 1800000001⟩
    let tooEarly : Moment := ⟨⟨1, 1, 1⟩, 0, 0, 0, 0, some 1⟩
    ∃ text, chart.render {} noon = .ok text ∧ ∃ before after, before = Document.opening ∧
      chart.render {} early = .ok (before ++ "2023-12-31T23:40:00.123Z".toList ++ '"' :: after) ∧
      chart.render {} tooEarly = .error .dateOutOfRange := by
  intro chart noon early tooEarly
  obtain ⟨text, rendered⟩ :=
    Result.isOk_iff.1 (by decide +kernel : (chart.render {} noon).isOk = true)
  have stamped : early.stamp = .ok "2023-12-31T23:40:00.123Z".toList := by decide +kernel
  have unstamped : tooEarly.stamp = .error .dateOutOfRange := by decide +kernel
  clear_value early tooEarly
  obtain ⟨before, after, opens, around⟩ := render_around_stamp rendered
  have atEarly := around (some early) noon
  have atTooEarly := around none tooEarly
  rw [Option.getD_some, stamped] at atEarly
  rw [Option.getD_none, unstamped] at atTooEarly
  exact ⟨text, rendered, before, after, opens, atEarly, atTooEarly⟩

end Chart

end QuadrantChart
