/-
This file reads command lines, in which options with their values stand among other arguments, and
says why one cannot be read.
-/

import QuadrantChart.Text.Escape

namespace QuadrantChart

/-- Why a command line cannot be read. -/
inductive UsageFault where
  | ambiguous (argument : Text) (names : List Text)
  | missingValue (option : Text)
  | unwantedValue (option value : Text)
  | notChoice (argument value : Text) (choices : List Text)
  | notNumeral (option value : Text)
  | unrecognized (arguments : List Text)
  deriving DecidableEq, Repr

namespace UsageFault

/-- What is wrong with one argument. -/
def about (argument complaint : Text) : Text :=
  "argument ".toList ++ argument ++ ": ".toList ++ complaint

def message : UsageFault → Text
  | .ambiguous argument names =>
    "ambiguous option: ".toList ++ argument ++ " could match ".toList ++
      Text.join ", ".toList names
  | .missingValue option => about option "expected one argument".toList
  | .unwantedValue option value =>
    about option ("ignored explicit argument ".toList ++ Text.quoted value)
  | .notChoice argument value choices =>
    about argument ("invalid choice: ".toList ++ Text.quoted value ++ " (choose from ".toList ++
      Text.join ", ".toList (choices.map Text.quoted) ++ [')'])
  | .notNumeral option value => about option ("invalid float value: ".toList ++ Text.quoted value)
  | .unrecognized arguments =>
    "unrecognized arguments: ".toList ++ Text.join [' '] arguments

end UsageFault

/-- An option has long and short names, and it takes one value or none. -/
structure OptionRule (Key : Type) where
  key : Key
  names : List Text
  takesValue : Bool
  deriving DecidableEq, Repr

/-- The options of a command. No two of them share a name. -/
abbrev OptionTable (Key : Type) := List (OptionRule Key)

/-- An argument that names an option, and that may have a value attached to the name. -/
structure OptionUse (Key : Type) where
  name : Text
  rule : OptionRule Key
  attached : Option Text
  deriving DecidableEq, Repr

/-- What an argument is by itself. -/
inductive Argument (Key : Type) where
  | operand
  | option (use : OptionUse Key)
  | ambiguous (names : List Text)
  | unknown
  deriving DecidableEq, Repr

/-- What ends an argument with options: the last one may have a value or wait for the next
argument. -/
inductive ClusterEnd (Key : Type) where
  | closed
  | valued (rule : OptionRule Key) (value : Text)
  | waiting (rule : OptionRule Key)
  deriving DecidableEq, Repr

/-- The options of one argument, all of which but the last take no value. -/
structure Cluster (Key : Type) where
  flags : List (OptionRule Key)
  last : ClusterEnd Key
  deriving DecidableEq, Repr

/-- The contents of a command line in order, up to its end or to its first fault. An option without
a value is a flag, or it is left blank. Nothing after a separator is an option. -/
inductive CommandLine (Key : Type) where
  | finished
  | faulty (fault : UsageFault)
  | option (rule : OptionRule Key) (value : Option Text) (rest : CommandLine Key)
  | unknown (argument : Text) (rest : CommandLine Key)
  | operand (argument : Text) (following : List Text) (rest : CommandLine Key)
  | separator (following : List Text)

/-- The names of an option as they appear in messages. -/
def OptionRule.title {Key : Type} (rule : OptionRule Key) : Text :=
  Text.join ['/'] rule.names

def Cluster.bare {Key : Type} (rule : OptionRule Key) : Cluster Key :=
  if rule.takesValue then ⟨[], .waiting rule⟩ else ⟨[rule], .closed⟩

def CommandLine.separatorText : Text :=
  ['-', '-']

/-- Puts options without values in front of a command line. -/
def CommandLine.withFlags {Key : Type} (flags : List (OptionRule Key)) (rest : CommandLine Key) :
    CommandLine Key :=
  flags.foldr (fun rule rest => .option rule none rest) rest

/-- A separator as the attached value leaves an option blank. -/
def CommandLine.valueOf (attached : Text) : Option Text :=
  if attached = separatorText then none else some attached

/-- A minus sign and digits of any script, with at most one point that is not last. A final line
feed does not count. -/
def isNegativeNumeral : Text → Bool
  | '-' :: rest =>
    let numeral := if rest.getLast? = some '\n' then rest.dropLast else rest
    match Text.splitFirst '.' numeral with
    | none => !numeral.isEmpty && numeral.all Text.isDigit
    | some (whole, fraction) =>
      whole.all Text.isDigit && !fraction.isEmpty && fraction.all Text.isDigit
  | _ => false

/-- The name of an option, and the value after the first equals sign. -/
def splitEquals (argument : Text) : Text × Option Text :=
  match Text.splitFirst '=' argument with
  | some (name, value) => (name, some value)
  | none => (argument, none)

def isShortName : Text → Bool
  | '-' :: '-' :: _ => false
  | _ => true

namespace OptionTable

variable {Key : Type}

def rule? (table : OptionTable Key) (name : Text) : Option (OptionRule Key) :=
  List.find? (fun rule => rule.names.contains name) table

def named (table : OptionTable Key) : List (Text × OptionRule Key) :=
  table.flatMap fun rule => rule.names.map fun name => (name, rule)

/-- The option that an argument names in full. -/
def exactUse? (table : OptionTable Key) (argument : Text) : Option (OptionUse Key) :=
  match table.rule? argument with
  | some rule => some ⟨argument, rule, none⟩
  | none =>
    let (name, attached) := splitEquals argument
    (table.rule? name).map fun rule => ⟨name, rule, attached⟩

/-- The options that an argument may mean. The end of a long name may be missing, and a value may
directly follow a short name. -/
def possibleUses (table : OptionTable Key) : Text → List (OptionUse Key)
  | '-' :: '-' :: rest =>
    let (start, attached) := splitEquals ('-' :: '-' :: rest)
    (table.named.filter fun (name, _) => start.isPrefixOf name).map fun (name, rule) =>
      ⟨name, rule, attached⟩
  | '-' :: letter :: value =>
    (table.rule? ['-', letter]).toList.map fun rule => ⟨['-', letter], rule, some value⟩
  | _ => []

/-- An argument that begins with a minus sign is still no option when it is a lone minus sign, a
numeral or a phrase with spaces. -/
def readArgument (table : OptionTable Key) (argument : Text) : Argument Key :=
  match argument with
  | '-' :: _ :: _ =>
    match table.exactUse? argument with
    | some use => .option use
    | none =>
      match table.possibleUses argument with
      | [] => if isNegativeNumeral argument || argument.contains ' ' then .operand else .unknown
      | [use] => .option use
      | uses => .ambiguous (uses.map (·.name))
  | _ => .operand

/-- An option with an attached value. Behind a short name without a value stand more short names. -/
def attach (table : OptionTable Key) (rule : OptionRule Key) (short : Bool) :
    Text → Except UsageFault (Cluster Key)
  | [] =>
    if rule.takesValue then .ok ⟨[], .valued rule []⟩ else .error (.unwantedValue rule.title [])
  | letter :: rest =>
    if rule.takesValue then .ok ⟨[], .valued rule (letter :: rest)⟩
    else if !short then .error (.unwantedValue rule.title (letter :: rest))
    else match table.rule? ['-', letter] with
    | none => .error (.unwantedValue rule.title (letter :: rest))
    | some next => do
      let cluster ← match rest with
        | [] => pure (Cluster.bare next)
        | char :: value => table.attach next true (char :: value)
      return { cluster with flags := rule :: cluster.flags }

def cluster (table : OptionTable Key) (use : OptionUse Key) : Except UsageFault (Cluster Key) :=
  match use.attached with
  | none => .ok (.bare use.rule)
  | some value => table.attach use.rule (isShortName use.name) value

/-- Whether an argument can be the value of the option before it. -/
def isValue (table : OptionTable Key) (argument : Text) : Bool :=
  argument != CommandLine.separatorText &&
    match table.readArgument argument with
    | .operand => true
    | _ => false

def readFrom (table : OptionTable Key) : List Text → CommandLine Key
  | [] => .finished
  | argument :: following =>
    if argument = CommandLine.separatorText then .separator following
    else match table.readArgument argument with
    | .operand => .operand argument following (table.readFrom following)
    | .unknown => .unknown argument (table.readFrom following)
    | .ambiguous names => .faulty (.ambiguous argument names)
    | .option use =>
      match table.cluster use with
      | .error fault => .faulty fault
      | .ok ⟨flags, .closed⟩ => .withFlags flags (table.readFrom following)
      | .ok ⟨flags, .valued rule value⟩ =>
        .withFlags flags (.option rule (CommandLine.valueOf value) (table.readFrom following))
      | .ok ⟨flags, .waiting rule⟩ =>
        match following with
        | [] => .faulty (.missingValue rule.title)
        | value :: following =>
          if table.isValue value then
            .withFlags flags (.option rule (some value) (table.readFrom following))
          else .faulty (.missingValue rule.title)

/-- The first ambiguous argument before a separator. -/
def ambiguity? (table : OptionTable Key) (arguments : List Text) : Option UsageFault :=
  (arguments.takeWhile (· != CommandLine.separatorText)).findSome? fun argument =>
    match table.readArgument argument with
    | .ambiguous names => some (.ambiguous argument names)
    | _ => none

/-- An ambiguous argument is a fault wherever it stands, also as the value of an option. -/
def read (table : OptionTable Key) (arguments : List Text) : CommandLine Key :=
  match table.ambiguity? arguments with
  | some fault => .faulty fault
  | none => table.readFrom arguments

end OptionTable

end QuadrantChart
