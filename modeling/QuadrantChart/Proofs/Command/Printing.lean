/-
This file proves that every encoding takes the words of the program itself, so that only a document
or the path of a file can be impossible to print.
-/

import QuadrantChart.Command.Run
import QuadrantChart.Proofs.Text.Digits

namespace QuadrantChart

namespace Encoding

variable {encoding : Encoding}

theorem takes_iff {text : Text} :
    encoding.takes text = true ↔ ∀ char ∈ text, encoding.lacks char = false := by
  simp [takes]

theorem takes_append {text rest : Text} :
    encoding.takes (text ++ rest) = (encoding.takes text && encoding.takes rest) :=
  List.all_append

@[simp]
theorem utf8_takes (text : Text) : utf8.takes text = true :=
  takes_iff.2 fun _ _ => rfl

/-- A text in ASCII can be encoded, whatever the encoding. -/
theorem takes_ascii {text : Text} (small : ∀ char ∈ text, char.toNat < 0x80) :
    encoding.takes text = true :=
  takes_iff.2 fun char member => encoding.hasAscii char (small char member)

theorem takes_ofNat (value : Nat) : encoding.takes (Text.ofNat value) = true := by
  apply takes_ascii
  intro char member
  have digit := Text.ofNat_isDigit value char member
  simp only [Char.isDigit, Bool.and_eq_true, decide_eq_true_eq] at digit
  have last : char.toNat ≤ 57 := digit.2
  omega

/-- Lines in ASCII can be encoded with their line ends. -/
theorem takes_lines {lines : List String}
    (small : (lines.all fun line => line.toList.all fun char => char.toNat < 0x80) = true) :
    encoding.takes (lines.flatMap fun line => line.toList ++ ['\n']) = true := by
  simp only [List.all_eq_true, decide_eq_true_eq] at small
  apply takes_ascii
  intro char member
  obtain ⟨line, line_mem, char_mem⟩ := List.mem_flatMap.1 member
  rcases List.mem_append.1 char_mem with inside | lineEnd
  · exact small line line_mem char inside
  · rw [List.mem_singleton.1 lineEnd]
    decide

-- The lines are spelled out before they are checked, since the kernel is slow to read literals.

theorem takes_help (command : Option CommandName) :
    encoding.takes (Help.page command) = true := by
  apply takes_lines
  rcases command with _ | _ | _ | _ <;>
    simp only [Help.lines, Help.general, Help.convert, Help.preview, Help.cheatsheet,
      List.all_cons, List.all_nil] <;>
    (repeat rw [String.toList_ofList]) <;>
    decide +kernel

theorem takes_cheatsheet : encoding.takes (Cheatsheet.text ++ ['\n']) = true := by
  have lines : encoding.takes Cheatsheet.text = true := by
    apply takes_lines
    simp only [Cheatsheet.lines, List.all_cons, List.all_nil]
    repeat rw [String.toList_ofList]
    decide +kernel
  have lineEnd : encoding.takes ['\n'] = true := takes_ascii (by simp)
  rw [takes_append, lines, lineEnd]
  rfl

/-- The number of points can always be printed. -/
theorem takes_foundLine (source : Text) :
    encoding.takes (ChartRequest.foundLine source) = true := by
  have words : encoding.takes "Found ".toList = true ∧
      encoding.takes " data points.\n".toList = true :=
    ⟨takes_ascii (by simp), takes_ascii (by simp)⟩
  change encoding.takes ("Found ".toList ++ Text.ofNat _ ++ " data points.\n".toList) = true
  generalize "Found ".toList = before, " data points.\n".toList = after at words ⊢
  rw [takes_append, takes_append, words.1, words.2, takes_ofNat]
  rfl

/-- A path can be printed if its characters can. -/
theorem takes_wroteLine (path : Path) :
    encoding.takes (ChartRequest.wroteLine path) = encoding.takes path.written := by
  have word : encoding.takes "Wrote ".toList = true := takes_ascii (by simp)
  have lineEnd : encoding.takes ['\n'] = true := takes_ascii (by simp)
  change encoding.takes ("Wrote ".toList ++ path.written ++ ['\n']) = _
  generalize "Wrote ".toList = wrote at word ⊢
  rw [takes_append, takes_append, word, lineEnd, Bool.true_and, Bool.and_true]

end Encoding

namespace Session

variable {session : Session} {output text : Text} {log : List Text} {next : Text → Interaction}

theorem print_taken (takes : session.encoding.takes text = true) :
    session.print output log text next = next (output ++ text) :=
  if_pos takes

theorem print_lacking (lacks : session.encoding.takes text = false) :
    session.print output log text next =
      session.fail output log (.ofUnexpected (session.encoding.complaint text)) :=
  if_neg (Bool.eq_false_iff.1 lacks)

end Session

end QuadrantChart
