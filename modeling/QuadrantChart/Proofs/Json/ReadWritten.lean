/-
This file proves that a written report is one line, and that the line reads as an object with
everything that the report holds.
-/

import QuadrantChart.Command.Report
import QuadrantChart.Proofs.Json.Reader
import QuadrantChart.Proofs.Text.Split
import Mathlib.Tactic.SplitIfs

namespace QuadrantChart

namespace Json

theorem hexDigit?_digitChar : ∀ digit < 16, hexDigit? (Text.digitChar digit) = some digit := by
  decide

/-- Four digits of a code are read as the code. -/
theorem unit?_hexadecimal (code : Nat) (small : code < 0x10000) (rest : Text) :
    unit? (Text.hexadecimal 4 code ++ rest) = some (code, rest) := by
  have digit (value : Nat) := hexDigit?_digitChar (value % 16) (Nat.mod_lt _ (by decide))
  have whole : ((code / 16 / 16 / 16 % 16 * 16 + code / 16 / 16 % 16) * 16 + code / 16 % 16) * 16 +
      code % 16 = code := by omega
  simp [Text.hexadecimal, unit?, digit, whole]

theorem unicode?_single (code : Nat) (notSurrogate : code < 0xD800 ∨ 0xDFFF < code)
    (small : code < 0x10000) (rest : Text) :
    unicode? (Text.hexadecimal 4 code ++ rest) = some (Char.ofNat code, rest) := by
  have notHigh : isHighSurrogate code = false := by
    rw [isHighSurrogate, Bool.and_eq_false_iff, decide_eq_false_iff_not, decide_eq_false_iff_not]
    omega
  have notLow : isLowSurrogate code = false := by
    rw [isLowSurrogate, Bool.and_eq_false_iff, decide_eq_false_iff_not, decide_eq_false_iff_not]
    omega
  simp [unicode?, unit?_hexadecimal code small, notHigh, notLow]

/-- Two surrogates are read as one character. -/
theorem unicode?_pair (code : Nat) (small : code < 0x100000) (rest : Text) :
    unicode? (Text.hexadecimal 4 (0xD800 + code / 0x400) ++
        (Text.escapeUnit (0xDC00 + code % 0x400) ++ rest)) =
      some (Char.ofNat (0x10000 + code), rest) := by
  have high : isHighSurrogate (0xD800 + code / 0x400) = true := by
    rw [isHighSurrogate, Bool.and_eq_true, decide_eq_true_iff, decide_eq_true_iff]
    omega
  have low : isLowSurrogate (0xDC00 + code % 0x400) = true := by
    rw [isLowSurrogate, Bool.and_eq_true, decide_eq_true_iff, decide_eq_true_iff]
    omega
  have whole : 0x10000 + (0xD800 + code / 0x400 - 0xD800) * 0x400 +
      (0xDC00 + code % 0x400 - 0xDC00) = 0x10000 + code := by omega
  have first := unit?_hexadecimal (0xD800 + code / 0x400) (by omega)
    (Text.escapeUnit (0xDC00 + code % 0x400) ++ rest)
  have second := unit?_hexadecimal (0xDC00 + code % 0x400) (by omega) rest
  rw [unicode?, first]
  simp only [Option.bind_eq_bind, Option.bind_some, high, if_true, Text.escapeUnit,
    List.cons_append, second, low, whole, Option.pure_def]

/-- A character in its written form is read again, whatever follows it. -/
theorem character?_escapeJson (char : Char) (rest : Text) :
    character? (Text.escapeJson char ++ rest) = some (char, rest) := by
  have valid : char.toNat < 0xD800 ∨ 0xDFFF < char.toNat ∧ char.toNat < 0x110000 := char.valid
  have same : Char.ofNat char.toNat = char := Char.ofNat_toNat char
  unfold Text.escapeJson
  split_ifs with marked feed carriage tab back form plain basic
  · simp only [Bool.or_eq_true, decide_eq_true_eq] at marked
    rcases marked with rfl | rfl <;> rfl
  · rw [feed]; rfl
  · rw [carriage]; rfl
  · rw [tab]; rfl
  · rw [back]; rfl
  · rw [form]; rfl
  · simp only [Bool.or_eq_true, decide_eq_true_eq, not_or] at marked
    have printable : ¬char.toNat < 0x20 := by
      rw [Bool.and_eq_true, decide_eq_true_eq] at plain
      omega
    unfold character?
    split
    · next equal => cases equal
    · next equal => exact absurd (List.cons.inj equal).1 marked.2
    · next equal => exact absurd (List.cons.inj equal).1 marked.2
    · next equal =>
      cases equal
      simp [printable, marked.2]
  · have single := unicode?_single char.toNat (by omega) basic rest
    rw [same] at single
    exact single
  · have pair := unicode?_pair (char.toNat - 0x10000) (by omega) rest
    have whole : 0x10000 + (char.toNat - 0x10000) = char.toNat := by omega
    rw [whole, same] at pair
    simp only [List.append_assoc]
    exact pair

/-- No written character begins with a quote. -/
theorem escapeJson_head (char : Char) (rest : Text) :
    (Text.escapeJson char ++ rest).head? ≠ some '"' := by
  unfold Text.escapeJson
  split_ifs with marked
  all_goals try simp [Text.escapeUnit]
  simp only [Bool.or_eq_true, decide_eq_true_eq, not_or] at marked
  exact marked.1

/-- A text in its written form is read up to the closing quote. -/
theorem quoted?_escaped (text rest : Text) (count : Nat) (enough : text.length < count) :
    quoted? count (text.flatMap Text.escapeJson ++ '"' :: rest) = some (text, rest) := by
  induction text generalizing count with
  | nil =>
    obtain ⟨count, rfl⟩ := Nat.exists_eq_add_one.2 enough
    rfl
  | cons char text inductionHypothesis =>
    obtain ⟨count, rfl⟩ := Nat.exists_eq_add_one.2 (Nat.lt_of_le_of_lt (Nat.zero_le _) enough)
    have remaining := inductionHypothesis count (Nat.lt_of_succ_lt_succ enough)
    rw [List.flatMap_cons, List.append_assoc, quoted?, if_neg (escapeJson_head char _),
      character?_escapeJson]
    simp only [Option.bind_eq_bind, Option.bind_some, remaining, Option.pure_def]

theorem escapeJson_nonempty (char : Char) : 0 < (Text.escapeJson char).length := by
  unfold Text.escapeJson
  split_ifs <;> simp [Text.escapeUnit]

theorem length_le_escaped (text : Text) : text.length ≤ (text.flatMap Text.escapeJson).length := by
  induction text with
  | nil => exact Nat.le_refl 0
  | cons char text inductionHypothesis =>
    have one := escapeJson_nonempty char
    rw [List.flatMap_cons, List.length_append, List.length_cons]
    omega

/-- A written text behind its opening quote is read back. -/
theorem quoted?_jsonString (text rest : Text) :
    quoted? (text.flatMap Text.escapeJson ++ '"' :: rest).length
      (text.flatMap Text.escapeJson ++ '"' :: rest) = some (text, rest) := by
  refine quoted?_escaped text rest _ ?_
  have shorter := length_le_escaped text
  rw [List.length_append, List.length_cons]
  omega

/-- A written value, whatever follows it. -/
structure ReadsAs (written : Text) (value : Value) : Prop where
  reads : ∀ rest, value? (written ++ rest) = some (value, rest)
  visible : ∀ rest, skipSpace (written ++ rest) = written ++ rest

theorem jsonString_append (text rest : Text) :
    Text.jsonString text ++ rest = '"' :: (text.flatMap Text.escapeJson ++ '"' :: rest) := by
  simp [Text.jsonString]

theorem readsAs_text (text : Text) : ReadsAs (Text.jsonString text) (.text text) where
  reads rest := by
    rw [jsonString_append, value?, quoted?_jsonString]
    rfl
  visible rest := by
    rw [jsonString_append]
    rfl

theorem readsAs_false : ReadsAs "false".toList (.boolean false) :=
  ⟨fun _ => rfl, fun _ => rfl⟩

/-- A text that may be missing. -/
def ofOption : Option Text → Value
  | some text => .text text
  | none => .null

theorem readsAs_option (text : Option Text) : ReadsAs (Report.jsonValue text) (ofOption text) := by
  cases text with
  | some text => exact readsAs_text text
  | none => exact ⟨fun _ => rfl, fun _ => rfl⟩

/-- A name with its value is read up to a character that is no space. -/
theorem member?_jsonField (name : Text) {written : Text} {value : Value}
    (readsAs : ReadsAs written value) (next : Char) (rest : Text) (visible : isSpace next = false) :
    member? (Report.jsonField name written ++ next :: rest) =
      some ((name, value), next :: rest) := by
  have follows : skipSpace (next :: rest) = next :: rest := by
    simp [skipSpace, visible]
  have spaced : skipSpace (' ' :: (written ++ next :: rest)) = written ++ next :: rest :=
    readsAs.visible (next :: rest)
  have parts : Report.jsonField name written ++ next :: rest =
      '"' :: (name.flatMap Text.escapeJson ++ '"' :: ':' :: ' ' :: (written ++ next :: rest)) := by
    simp [Report.jsonField, Text.jsonString]
  have opens (others : Text) : skipSpace ('"' :: others) = '"' :: others := rfl
  have colon (others : Text) : skipSpace (':' :: others) = ':' :: others := rfl
  rw [parts, member?, opens]
  simp only [quoted?_jsonString, Option.bind_eq_bind, Option.bind_some, colon, spaced,
    readsAs.reads, follows, Option.pure_def]

/-- A member of an object as it is written, and as it is read. -/
structure WrittenMember where
  name : Text
  written : Text
  value : Value
  readsAs : ReadsAs written value

def WrittenMember.text (member : WrittenMember) : Text :=
  Report.jsonField member.name member.written

theorem WrittenMember.text_nonempty (member : WrittenMember) : member.text ≠ [] := by
  simp [text, Report.jsonField, Text.jsonString]

theorem members?_space (count : Nat) (text : Text) :
    members? count (' ' :: text) = members? count text := by
  cases count <;> rfl

/-- Members with a comma and a space between any two of them are read in order. -/
theorem members?_join (members : List WrittenMember) (nonempty : members ≠ []) (rest : Text)
    (count : Nat) (enough : members.length ≤ count) :
    members? count (Text.join ", ".toList (members.map WrittenMember.text) ++ '\x7d' :: rest) =
      some (members.map fun member => (member.name, member.value), rest) := by
  induction members generalizing count with
  | nil => exact absurd rfl nonempty
  | cons member members inductionHypothesis =>
    obtain ⟨count, rfl⟩ := Nat.exists_eq_add_one.2 (Nat.lt_of_lt_of_le (Nat.zero_lt_succ _) enough)
    have first (next : Char) (behind : Text) (visible : isSpace next = false) :
        member? (member.text ++ next :: behind) =
          some ((member.name, member.value), next :: behind) :=
      member?_jsonField member.name member.readsAs next behind visible
    cases members with
    | nil =>
      rw [List.map_singleton, Text.join, members?, first _ _ (by decide)]
      rfl
    | cons next others =>
      have remaining :=
        inductionHypothesis (List.cons_ne_nil _ _) count (Nat.le_of_succ_le_succ enough)
      have parts : Text.join ", ".toList ((member :: next :: others).map WrittenMember.text) ++
          '\x7d' :: rest = member.text ++ ',' :: ' ' ::
            (Text.join ", ".toList ((next :: others).map WrittenMember.text) ++
              '\x7d' :: rest) := by
        simp [Text.join]
      rw [parts, members?, first _ _ (by decide)]
      simp only [Option.bind_eq_bind, Option.bind_some, members?_space, remaining, Option.pure_def]
      rfl

/-- An object with at least one member is read as its members. -/
theorem object?_join (members : List WrittenMember) (nonempty : members ≠ []) :
    object? ('\x7b' :: (Text.join ", ".toList (members.map WrittenMember.text) ++ ['\x7d'])) =
      some (members.map fun member => (member.name, member.value)) := by
  have enough : members.length ≤
      (Text.join ", ".toList (members.map WrittenMember.text) ++ ['\x7d']).length := by
    have each : ∀ part ∈ members.map WrittenMember.text, part ≠ [] := by
      intro part member
      obtain ⟨written, -, rfl⟩ := List.mem_map.1 member
      exact written.text_nonempty
    have bound := Text.length_le_join ", ".toList each
    rw [List.length_map] at bound
    rw [List.length_append]
    omega
  have read := members?_join members nonempty [] _ enough
  obtain ⟨first, others, rfl⟩ := List.exists_cons_of_ne_nil nonempty
  obtain ⟨rest, opens⟩ : ∃ rest, Text.join ", ".toList ((first :: others).map WrittenMember.text) ++
      ['\x7d'] = '"' :: rest := by
    cases others <;> simp [Text.join, WrittenMember.text, Report.jsonField, Text.jsonString]
  rw [opens] at read ⊢
  have brace (rest : Text) : skipSpace ('\x7b' :: rest) = '\x7b' :: rest := rfl
  have quote (rest : Text) : skipSpace ('"' :: rest) = '"' :: rest := rfl
  simp only [object?, brace, quote, read]
  rfl

end Json

/-- No line feed stands in a text in its written form. -/
theorem escapeJson_oneLine (char : Char) : '\n' ∉ Text.escapeJson char := by
  have digit : ∀ value < 16, Text.digitChar value ≠ '\n' := by decide
  have code (value : Nat) : '\n' ∉ Text.escapeUnit value := by
    have each (part : Nat) := (digit (part % 16) (Nat.mod_lt _ (by decide))).symm
    simp [Text.escapeUnit, Text.hexadecimal, each]
  unfold Text.escapeJson
  split_ifs with marked feed carriage tab back form plain basic
  · simp only [Bool.or_eq_true, decide_eq_true_eq] at marked
    rcases marked with rfl | rfl <;> decide
  all_goals first | decide | exact code _ | skip
  · simpa using Ne.symm feed
  · rw [List.mem_append, not_or]
    exact ⟨code _, code _⟩

theorem jsonString_oneLine (text : Text) : '\n' ∉ Text.jsonString text := by
  have escaped : '\n' ∉ text.flatMap Text.escapeJson := by
    intro member
    obtain ⟨char, -, inside⟩ := List.mem_flatMap.1 member
    exact escapeJson_oneLine char inside
  simp [Text.jsonString, escaped]

namespace Report

/-- The members of a report: that something went wrong, and all that is known about it. -/
def members (report : Report) : Json.Members :=
  [("ok".toList, .boolean false), ("code".toList, .text report.code.text),
    ("message".toList, .text report.message), ("file".toList, Json.ofOption report.file),
    ("hint".toList, Json.ofOption report.hint)]

/-- The line of a report in JSON. -/
def line (report : Report) : Text :=
  '\x7b' :: (Text.join ", ".toList report.fields ++ ['\x7d'])

theorem json_eq (report : Report) : report.json = report.line ++ ['\n'] := by
  simp [json, line]

/-- The line of a report reads as an object with everything that the report holds. -/
theorem object?_line (report : Report) : Json.object? report.line = some report.members := by
  exact Json.object?_join
    [⟨"ok".toList, _, _, Json.readsAs_false⟩,
      ⟨"code".toList, _, _, Json.readsAs_text report.code.text⟩,
      ⟨"message".toList, _, _, Json.readsAs_text report.message⟩,
      ⟨"file".toList, _, _, Json.readsAs_option report.file⟩,
      ⟨"hint".toList, _, _, Json.readsAs_option report.hint⟩] (List.cons_ne_nil _ _)

theorem jsonField_oneLine (name : Text) {value : Text} (oneLine : '\n' ∉ value) :
    '\n' ∉ jsonField name value := by
  simp [jsonField, jsonString_oneLine name, oneLine]

theorem jsonValue_oneLine (text : Option Text) : '\n' ∉ jsonValue text := by
  cases text with
  | none => decide
  | some text => exact jsonString_oneLine text

theorem fields_oneLine (report : Report) : ∀ field ∈ report.fields, '\n' ∉ field := by
  simp only [fields, List.forall_mem_cons]
  exact ⟨jsonField_oneLine _ (by decide), jsonField_oneLine _ (jsonString_oneLine _),
    jsonField_oneLine _ (jsonString_oneLine _), jsonField_oneLine _ (jsonValue_oneLine _),
    jsonField_oneLine _ (jsonValue_oneLine _), by simp⟩

theorem line_oneLine (report : Report) : '\n' ∉ report.line := by
  have joined : '\n' ∉ Text.join ", ".toList report.fields :=
    Text.notMem_join (by decide) report.fields_oneLine
  rw [line, List.mem_cons, List.mem_append, not_or, not_or]
  exact ⟨by decide, joined, by decide⟩

end Report

end QuadrantChart
