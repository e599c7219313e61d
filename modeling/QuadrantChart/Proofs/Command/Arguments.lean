/-
This file says how options, their values and other arguments are read when they are spelled in
full.
-/

import QuadrantChart.Command.Invocation
import QuadrantChart.Proofs.Result
import QuadrantChart.Proofs.Text.Split

namespace QuadrantChart

theorem splitEquals_attached {name : Text} (clean : '=' ∉ name) (value : Text) :
    splitEquals (name ++ '=' :: value) = (name, some value) := by
  rw [splitEquals, Text.splitFirst_append clean]

/-- An argument that cannot be taken for an option. -/
def IsOperand (argument : Text) : Prop :=
  argument.head? ≠ some '-'

instance (argument : Text) : Decidable (IsOperand argument) :=
  inferInstanceAs (Decidable (_ ≠ _))

namespace OptionTable

variable {Key : Type} {table : OptionTable Key} {name value argument : Text}
  {rule : OptionRule Key} {following : List Text}

/-- A name of an option: it begins with a dash, is not the separator, and has no equals sign. -/
structure Names (table : OptionTable Key) (name : Text) (rule : OptionRule Key) : Prop where
  found : table.rule? name = some rule
  dashed : name.head? = some '-'
  long : 2 ≤ name.length
  notSeparator : name ≠ CommandLine.separatorText
  clean : '=' ∉ name

instance [DecidableEq Key] (table : OptionTable Key) (name : Text) (rule : OptionRule Key) :
    Decidable (table.Names name rule) :=
  decidable_of_iff
    (table.rule? name = some rule ∧ name.head? = some '-' ∧ 2 ≤ name.length ∧
      name ≠ CommandLine.separatorText ∧ '=' ∉ name)
    ⟨fun ⟨found, dashed, long, notSeparator, clean⟩ => ⟨found, dashed, long, notSeparator, clean⟩,
      fun names => ⟨names.found, names.dashed, names.long, names.notSeparator, names.clean⟩⟩

/-- A table all of whose names are names of their options. -/
def Proper (table : OptionTable Key) : Prop :=
  ∀ pair ∈ table.named, table.Names pair.1 pair.2

instance [DecidableEq Key] (table : OptionTable Key) : Decidable table.Proper :=
  inferInstanceAs (Decidable (∀ _ ∈ _, _))

theorem Names.begins (names : table.Names name rule) : ∃ char rest, name = '-' :: char :: rest := by
  have dashed := names.dashed
  have long := names.long
  match name with
  | [] => cases dashed
  | [_] => simp at long
  | first :: char :: rest =>
    cases dashed
    exact ⟨char, rest, rfl⟩

theorem rule?_attached (proper : table.Proper) (name value : Text) :
    table.rule? (name ++ '=' :: value) = none := by
  rw [rule?, List.find?_eq_none]
  intro rule member found
  have isName := List.contains_iff_mem.1 found
  have named : (name ++ '=' :: value, rule) ∈ table.named :=
    List.mem_flatMap.2 ⟨rule, member, List.mem_map.2 ⟨_, isName, rfl⟩⟩
  exact (proper _ named).clean (by simp)

theorem Names.exactUse? (names : table.Names name rule) :
    table.exactUse? name = some ⟨name, rule, none⟩ := by
  rw [OptionTable.exactUse?, names.found]

theorem Names.exactUse?_attached (names : table.Names name rule) (proper : table.Proper)
    (value : Text) :
    table.exactUse? (name ++ '=' :: value) = some ⟨name, rule, some value⟩ := by
  rw [OptionTable.exactUse?, rule?_attached proper]
  simp [splitEquals_attached names.clean, names.found]

/-- An argument that names an option in full is that option. -/
theorem readArgument_exact {use : OptionUse Key} (exact : table.exactUse? argument = some use)
    (begins : ∃ char rest, argument = '-' :: char :: rest) :
    table.readArgument argument = .option use := by
  obtain ⟨char, rest, rfl⟩ := begins
  rw [readArgument, exact]

theorem Names.begins_attached (names : table.Names name rule) (value : Text) :
    ∃ char rest, name ++ '=' :: value = '-' :: char :: rest := by
  obtain ⟨char, rest, rfl⟩ := names.begins
  exact ⟨char, rest ++ '=' :: value, rfl⟩

theorem readArgument_operand (operand : IsOperand argument) :
    table.readArgument argument = .operand := by
  unfold readArgument
  split
  · exact absurd rfl operand
  · rfl

theorem operand_notSeparator (operand : IsOperand argument) :
    argument ≠ CommandLine.separatorText := by
  rintro rfl
  exact operand rfl

theorem attach_value (rule : OptionRule Key) (takesValue : rule.takesValue = true) (short : Bool)
    (value : Text) : table.attach rule short value = .ok ⟨[], .valued rule value⟩ := by
  cases value <;> simp [attach, takesValue]

/-- An option with its value attached. -/
theorem Names.readFrom_attached (names : table.Names name rule) (proper : table.Proper)
    (takesValue : rule.takesValue = true) :
    table.readFrom ((name ++ '=' :: value) :: following) =
      .option rule (CommandLine.valueOf value) (table.readFrom following) := by
  have notSeparator : name ++ '=' :: value ≠ CommandLine.separatorText := by
    intro equal
    have member : '=' ∈ CommandLine.separatorText := by simp [← equal]
    exact absurd member (by decide)
  have isOption := readArgument_exact (names.exactUse?_attached proper value)
    (names.begins_attached value)
  rw [readFrom, if_neg notSeparator, isOption]
  simp only [cluster, attach_value rule takesValue]
  rfl

/-- An option that takes no value. -/
theorem Names.readFrom_flag (names : table.Names name rule) (takesNone : rule.takesValue = false) :
    table.readFrom (name :: following) = .option rule none (table.readFrom following) := by
  rw [readFrom, if_neg names.notSeparator, readArgument_exact names.exactUse? names.begins]
  simp only [cluster, Cluster.bare, takesNone]
  rfl

/-- An option with its value in the next argument. -/
theorem Names.readFrom_value (names : table.Names name rule) (takesValue : rule.takesValue = true)
    (operand : IsOperand value) :
    table.readFrom (name :: value :: following) =
      .option rule (some value) (table.readFrom following) := by
  have isValue : table.isValue value = true := by
    simp [OptionTable.isValue, operand_notSeparator operand, readArgument_operand operand]
  rw [readFrom, if_neg names.notSeparator, readArgument_exact names.exactUse? names.begins]
  simp only [cluster, Cluster.bare, takesValue, isValue, if_true]
  rfl

theorem readFrom_operand (operand : IsOperand argument) :
    table.readFrom (argument :: following) =
      .operand argument following (table.readFrom following) := by
  rw [readFrom, if_neg (operand_notSeparator operand), readArgument_operand operand]

/-- An argument that does not abbreviate several options. -/
def Unambiguous (table : OptionTable Key) (argument : Text) : Prop :=
  ∀ names, table.readArgument argument ≠ .ambiguous names

theorem unambiguous_operand (operand : IsOperand argument) : table.Unambiguous argument :=
  fun _ ambiguous => nomatch (readArgument_operand operand).symm.trans ambiguous

theorem Names.unambiguous (names : table.Names name rule) : table.Unambiguous name :=
  fun _ ambiguous =>
    nomatch (readArgument_exact names.exactUse? names.begins).symm.trans ambiguous

theorem Names.unambiguous_attached (names : table.Names name rule) (proper : table.Proper)
    (value : Text) : table.Unambiguous (name ++ '=' :: value) :=
  fun _ ambiguous => nomatch (readArgument_exact (names.exactUse?_attached proper value)
    (names.begins_attached value)).symm.trans ambiguous

/-- An argument that begins no name is unambiguous. -/
theorem unambiguous_foreign (foreign : table.possibleUses argument = []) :
    table.Unambiguous argument := by
  intro names ambiguous
  unfold readArgument at ambiguous
  split at ambiguous
  · rw [foreign] at ambiguous
    split at ambiguous
    · cases ambiguous
    · split_ifs at ambiguous
  · cases ambiguous

/-- What is attached to the start of a long name does not change which options it begins. -/
theorem possibleUses_attached (dashed : ∃ rest, name = '-' :: '-' :: rest) (clean : '=' ∉ name)
    (foreign : table.named.filter (fun (other, _) => name.isPrefixOf other) = []) (value : Text) :
    table.possibleUses (name ++ '=' :: value) = [] := by
  have split := splitEquals_attached clean value
  obtain ⟨rest, rfl⟩ := dashed
  simp only [List.cons_append] at split ⊢
  simp [possibleUses, split, foreign]

/-- An unambiguous argument does not change what the first ambiguous one is. -/
theorem ambiguity?_cons (unambiguous : table.Unambiguous argument)
    (notSeparator : argument ≠ CommandLine.separatorText) :
    table.ambiguity? (argument :: following) = table.ambiguity? following := by
  have passed : (argument != CommandLine.separatorText) = true := by simpa using notSeparator
  rw [ambiguity?, List.takeWhile_cons, if_pos passed, List.findSome?_cons, ambiguity?]
  cases read : table.readArgument argument with
  | ambiguous names => exact absurd read (unambiguous names)
  | _ => rfl

/-- Without an ambiguous argument, a command line is read from left to right. -/
theorem read_unambiguous {arguments : List Text}
    (each : ∀ argument ∈ arguments, table.Unambiguous argument) :
    table.read arguments = table.readFrom arguments := by
  have none : table.ambiguity? arguments = none := by
    rw [ambiguity?, List.findSome?_eq_none_iff]
    intro argument member
    have unambiguous := each argument (List.takeWhile_subset _ member)
    cases read : table.readArgument argument with
    | ambiguous names => exact absurd read (unambiguous names)
    | _ => rfl
  rw [read, none]

end OptionTable

theorem ChartOption.table_proper (action : ChartAction) : (ChartOption.table action).Proper := by
  cases action <;> decide

namespace ChartRequest

variable {request : ChartRequest} {hasInput : Bool} {unrecognized : List Text}
  {action : ChartAction} {name value : Text} {rule : OptionRule ChartOption}
  {following : List Text}

/-- An option with a value attached is set to the value. -/
theorem read_attached (names : (ChartOption.table action).Names name rule)
    (takesValue : rule.takesValue = true) (notSeparator : value ≠ CommandLine.separatorText) :
    request.read hasInput unrecognized
        ((ChartOption.table action).readFrom ((name ++ '=' :: value) :: following)) =
      request.set rule (some value) >>= fun changed =>
        changed.read hasInput unrecognized ((ChartOption.table action).readFrom following) := by
  rw [names.readFrom_attached (ChartOption.table_proper action) takesValue, CommandLine.valueOf,
    if_neg notSeparator, read]

theorem read_flag (names : (ChartOption.table action).Names name rule)
    (takesNone : rule.takesValue = false) :
    request.read hasInput unrecognized ((ChartOption.table action).readFrom (name :: following)) =
      request.set rule none >>= fun changed =>
        changed.read hasInput unrecognized ((ChartOption.table action).readFrom following) := by
  rw [names.readFrom_flag takesNone, read]

theorem read_value (names : (ChartOption.table action).Names name rule)
    (takesValue : rule.takesValue = true) (operand : IsOperand value) :
    request.read hasInput unrecognized
        ((ChartOption.table action).readFrom (name :: value :: following)) =
      request.set rule (some value) >>= fun changed =>
        changed.read hasInput unrecognized ((ChartOption.table action).readFrom following) := by
  rw [names.readFrom_value takesValue operand, read]

/-- The first argument that is no option is the input, unless a separator follows it. -/
theorem read_input (operand : IsOperand name) (nonempty : name ≠ [])
    (noSeparator : ∀ others,
      (ChartOption.table action).readFrom following ≠ .separator others) :
    request.read false unrecognized
        ((ChartOption.table action).readFrom (name :: following)) =
      { request with input := some name }.read true unrecognized
        ((ChartOption.table action).readFrom following) := by
  have given : request.withInput name = { request with input := some name } := by
    rw [withInput, nonempty?, if_neg (by simpa using nonempty)]
  rw [OptionTable.readFrom_operand operand, read, if_neg (by decide), given]
  exact noSeparator

end ChartRequest

namespace Invocation

/-- A command word with arguments that the command reads in full. -/
theorem ofArguments_chart (action : ChartAction) {arguments : List Text} {request : ChartRequest}
    (general : ∀ argument ∈ arguments, GeneralOption.table.Unambiguous argument)
    (own : ∀ argument ∈ arguments, (ChartOption.table action).Unambiguous argument)
    (reads : ({ action } : ChartRequest).read false []
      ((ChartOption.table action).readFrom arguments) = .ok (request, [])) :
    ofArguments (action.name.text :: arguments) =
      .ok { command := some (.chart request) } := by
  have operand : IsOperand action.name.text := by cases action <;> decide
  have named : CommandName.ofText? action.name.text = some action.name := by
    cases action <;> decide
  have all : ∀ argument ∈ action.name.text :: arguments, GeneralOption.table.Unambiguous argument :=
    List.forall_mem_cons.2 ⟨OptionTable.unambiguous_operand operand, general⟩
  have line : Command.read action.name arguments = .ok (.chart request, []) := by
    cases action <;>
      simp only [ChartAction.name, Command.read, Command.read.chart,
        OptionTable.read_unambiguous own, reads] <;> rfl
  rw [ofArguments, OptionTable.read_unambiguous all, OptionTable.readFrom_operand operand, read,
    withCommand, named]
  simp only [line]
  rfl

end Invocation

end QuadrantChart
