/-
This file searches a text for a pattern with backtracking, and proves that the search for the
pattern of a point finds its label and its coordinates.
-/

import QuadrantChart.Proofs.Source.PointLine

namespace QuadrantChart

/-- Patterns of texts: a character of a kind, any number of such characters, a part that may be
missing, a group that is taken out, and a pattern behind another one. -/
inductive Pattern where
  | one (kind : Char → Bool)
  | many (kind : Char → Bool)
  | optional (pattern : Pattern)
  | group (pattern : Pattern)
  | append (first second : Pattern)

/-- A way to match the start of a text: what is taken, the groups in it, and what is left. -/
structure Way where
  taken : Text
  groups : List Text
  left : Text

namespace Way

def append (first second : Way) : Way :=
  ⟨first.taken ++ second.taken, first.groups ++ second.groups, second.left⟩

def grouped (way : Way) : Way :=
  { way with groups := way.taken :: way.groups }

end Way

namespace Pattern

instance : Append Pattern :=
  ⟨append⟩

/-- The ways to take characters of a kind. Taking more comes first. -/
def repetitions (kind : Char → Bool) : Text → List Way
  | [] => [⟨[], [], []⟩]
  | char :: rest =>
    if kind char then
      (repetitions kind rest).map (Way.append ⟨[char], [], rest⟩) ++ [⟨[], [], char :: rest⟩]
    else [⟨[], [], char :: rest⟩]

/-- The ways to match the start of a text in the order in which backtracking tries them. -/
def ways : Pattern → Text → List Way
  | one _, [] => []
  | one kind, char :: rest => if kind char then [⟨[char], [], rest⟩] else []
  | many kind, text => repetitions kind text
  | optional pattern, text => pattern.ways text ++ [⟨[], [], text⟩]
  | group pattern, text => (pattern.ways text).map Way.grouped
  | append first second, text =>
    (first.ways text).flatMap fun way => (second.ways way.left).map way.append

/-- The groups of the ways to match the start of a text. -/
def offers (pattern : Pattern) (text : Text) : List (List Text) :=
  (pattern.ways text).map Way.groups

/-- The groups of the first way at the first position where there is one. -/
def search (pattern : Pattern) : Text → Option (List Text)
  | [] => (pattern.offers []).head?
  | char :: rest => (pattern.offers (char :: rest)).head?.or (search pattern rest)

/-- The pattern of a single character. -/
def exactly (char : Char) : Pattern :=
  one (· = char)

def atLeastOne (kind : Char → Bool) : Pattern :=
  one kind ++ many kind

def numeral : Pattern :=
  optional (exactly '-') ++ atLeastOne Source.isNumeralPart

/-- The pattern of two coordinates in brackets. -/
def coordinates : Pattern :=
  many Text.isBlank ++ (exactly '[' ++ (group numeral ++ (exactly ',' ++ (many Text.isBlank ++
    (group numeral ++ exactly ']')))))

/-- The pattern of a point: a label within one line, a colon and two coordinates. -/
def point : Pattern :=
  group (atLeastOne (· ≠ '\n')) ++ (exactly ':' ++ coordinates)

/-- All ways but one at most leave a text that goes on with a character of a kind. -/
def Settles (pattern : Pattern) (kind : Char → Bool) (text : Text) (way : Option Way) : Prop :=
  ∃ others, pattern.ways text = way.toList ++ others ∧
    ∀ other ∈ others, ∃ char rest, other.left = char :: rest ∧ kind char = true

variable {pattern second : Pattern} {kind : Char → Bool} {text : Text} {way : Option Way}

theorem ways_append (first second : Pattern) (text : Text) :
    (first ++ second).ways text =
      (first.ways text).flatMap fun way => (second.ways way.left).map way.append :=
  rfl

theorem offers_append (first second : Pattern) (text : Text) :
    (first ++ second).offers text =
      (first.ways text).flatMap fun way => (second.offers way.left).map (way.groups ++ ·) := by
  simp only [offers, ways_append, List.map_flatMap, List.map_map]
  rfl

/-- What follows a pattern sees only the way that does not stop before a character of the kind. -/
theorem Settles.offers_append (settles : pattern.Settles kind text way)
    (stops : ∀ char rest, kind char = true → second.offers (char :: rest) = []) :
    (pattern ++ second).offers text =
      way.elim [] fun way => (second.offers way.left).map (way.groups ++ ·) := by
  obtain ⟨others, found, more⟩ := settles
  have none : (others.flatMap fun other => (second.offers other.left).map (other.groups ++ ·)) =
      [] := by
    rw [List.flatMap_eq_nil_iff]
    intro other member
    obtain ⟨char, rest, left, isKind⟩ := more other member
    rw [left, stops char rest isKind, List.map_nil]
  rw [Pattern.offers_append, found, List.flatMap_append, none, List.append_nil]
  cases way <;> simp

/-- A pattern whose ways are those of another one, except for what they take, leaves the same. -/
theorem Settles.extend (settles : pattern.Settles kind text way) (longer : Pattern) (whole : Text)
    (extend : Way → Way) (kept : ∀ way, (extend way).left = way.left)
    (extended : longer.ways whole = (pattern.ways text).map extend) :
    longer.Settles kind whole (way.map extend) := by
  obtain ⟨others, found, more⟩ := settles
  refine ⟨others.map extend, ?_, ?_⟩
  · rw [extended, found, List.map_append]
    cases way <;> rfl
  · simpa [kept] using more

theorem Settles.group (settles : pattern.Settles kind text way) :
    (group pattern).Settles kind text (way.map Way.grouped) :=
  settles.extend (.group pattern) text Way.grouped (fun _ => rfl) rfl

/-- Taking as many characters as possible leaves another character. -/
theorem settles_many (kind : Char → Bool) (text : Text) :
    (many kind).Settles kind text
      (some ⟨text.takeWhile kind, [], text.dropWhile kind⟩) := by
  induction text with
  | nil => exact ⟨[], rfl, by simp⟩
  | cons char rest inductionHypothesis =>
    obtain ⟨others, found, more⟩ := inductionHypothesis
    change repetitions kind rest = _ at found
    by_cases isKind : kind char = true
    · refine ⟨others.map (Way.append ⟨[char], [], rest⟩) ++ [⟨[], [], char :: rest⟩], ?_, ?_⟩
      · simp [ways, repetitions, isKind, found, Way.append]
      · simpa [or_imp, forall_and, Way.append, isKind] using more
    · exact ⟨[], by simp [ways, repetitions, isKind], by simp⟩

theorem settles_atLeastOne (kind : Char → Bool) (text : Text) :
    (atLeastOne kind).Settles kind text
      (if (text.takeWhile kind).isEmpty then none
      else some ⟨text.takeWhile kind, [], text.dropWhile kind⟩) := by
  cases text with
  | nil => exact ⟨[], rfl, by simp⟩
  | cons char rest =>
    by_cases isKind : kind char = true
    · have settled := (settles_many kind rest).extend (atLeastOne kind) (char :: rest)
        (Way.append ⟨[char], [], rest⟩) (fun _ => rfl)
        (by simp [atLeastOne, ways_append, ways, isKind])
      simpa [isKind, Way.append] using settled
    · exact ⟨[], by simp [atLeastOne, ways_append, ways, isKind], by simp⟩

theorem settles_numeral (text : Text) :
    numeral.Settles Source.isNumeralPart text
      ((Source.numeral? text).map fun (numeral, rest) => ⟨numeral, [], rest⟩) := by
  cases text with
  | nil => exact ⟨[], rfl, by simp⟩
  | cons first rest =>
    by_cases minus : first = '-'
    · subst minus
      have notPart : Source.isNumeralPart '-' = false := by decide
      have settled := (settles_atLeastOne Source.isNumeralPart rest).extend numeral ('-' :: rest)
        (Way.append ⟨['-'], [], rest⟩) (fun _ => rfl)
        (by simp [numeral, exactly, atLeastOne, ways_append, ways, notPart])
      rw [Source.numeral_minus]
      split at settled <;> simpa [*, Way.append] using settled
    · have settled := (settles_atLeastOne Source.isNumeralPart (first :: rest)).extend numeral
        (first :: rest) (Way.append ⟨[], [], first :: rest⟩) (fun _ => rfl)
        (by simp [numeral, exactly, atLeastOne, ways_append, ways, minus])
      rw [Source.numeral_plain first rest minus]
      split at settled <;> simpa [*, Way.append] using settled

/-- A pattern that offers what a reader finds, and nothing else. -/
def Finds (pattern : Pattern) (read : Text → Option (List Text)) : Prop :=
  ∀ text, pattern.offers text = (read text).toList

variable {read : Text → Option (List Text)}

theorem finds_exactly (char : Char) :
    (exactly char).Finds fun text => (Source.after? char text).map fun _ => [] := by
  intro text
  cases text with
  | nil => rfl
  | cons first rest =>
    by_cases same : first = char <;> simp [exactly, offers, ways, Source.after?, same]

theorem Finds.exactly (finds : second.Finds read) (char : Char) :
    (exactly char ++ second).Finds fun text => (Source.after? char text).bind read := by
  intro text
  rw [offers_append]
  cases text with
  | nil => rfl
  | cons first rest =>
    by_cases same : first = char
    · simpa [Pattern.exactly, ways, Source.after?, same] using finds rest
    · simp [Pattern.exactly, ways, Source.after?, same]

theorem Finds.blank (finds : second.Finds read)
    (stops : ∀ char rest, Text.isBlank char = true → read (char :: rest) = none) :
    (many Text.isBlank ++ second).Finds fun text => read (text.dropWhile Text.isBlank) := by
  intro text
  rw [(settles_many Text.isBlank text).offers_append]
  · simpa using finds _
  · intro char rest blank
    rw [finds, stops char rest blank]
    rfl

theorem Finds.numeral (finds : second.Finds read)
    (stops : ∀ char rest, Source.isNumeralPart char = true → read (char :: rest) = none) :
    (Pattern.group numeral ++ second).Finds fun text =>
      (Source.numeral? text).bind fun (numeral, rest) => (read rest).map (numeral :: ·) := by
  intro text
  rw [(settles_numeral text).group.offers_append]
  · dsimp only
    cases Source.numeral? text with
    | none => rfl
    | some parts =>
      obtain ⟨numeral, rest⟩ := parts
      simp only [Option.map_some, Option.elim_some, Option.bind_some, Way.grouped, finds rest]
      cases read rest <;> rfl
  · intro char rest part
    rw [finds, stops char rest part]
    rfl

theorem after_other {char first : Char} (other : first ≠ char) (rest : Text) :
    Source.after? char (first :: rest) = none := by
  rw [Source.after?, if_neg other]

/-- A blank character does not begin a numeral. -/
theorem numeral_blank {char : Char} (rest : Text) (blank : Text.isBlank char = true) :
    Source.numeral? (char :: rest) = none := by
  have notPart : ¬Source.isNumeralPart char = true := by
    intro part
    rw [Source.numeralPart_not_blank char part] at blank
    cases blank
  have notMinus : char ≠ '-' := by
    rintro rfl
    exact absurd blank (by decide)
  rw [Source.numeral_plain char rest notMinus, List.takeWhile_cons_of_neg notPart]
  rfl

/-- A match of the pattern of coordinates is unique, and it is what reading them finds. -/
theorem finds_coordinates :
    coordinates.Finds fun text => (Source.coordinates? text).map fun (x, y) => [x, y] := by
  have apart {kind : Char → Bool} {char first : Char} (isKind : kind first = true)
      (other : kind char = false) : first ≠ char := by
    rintro rfl
    exact Bool.false_ne_true (other.symm.trans isKind)
  have closing := (finds_exactly ']').numeral fun char rest part => by
    rw [after_other (apart part (by decide)), Option.map_none]
  have behindComma := (closing.blank fun char rest blank => by
    rw [numeral_blank rest blank, Option.bind_none]).exactly ','
  have bracketed := (behindComma.numeral fun char rest part => by
    rw [after_other (apart part (by decide)), Option.bind_none]).exactly '['
  have whole := bracketed.blank fun char rest blank => by
    rw [after_other (apart blank (by decide)), Option.bind_none]
  intro text
  refine (whole text).trans ?_
  simp [Source.coordinates?, Option.map_eq_bind, Option.bind_assoc]

/-- Taking a label as long as possible first finds the last colon that coordinates follow. -/
theorem offers_label (start text : Text) (oneLine : '\n' ∉ text) :
    (((many (· ≠ '\n')).ways text).flatMap fun way =>
      ((exactly ':' ++ coordinates).offers way.left).map
        ((start ++ way.taken) :: way.groups ++ ·)).head? =
      (Source.lastColon? text).map fun (label, x, y) => [start ++ label, x, y] := by
  have separated := finds_coordinates.exactly ':'
  induction text generalizing start with
  | nil => rfl
  | cons char rest inductionHypothesis =>
    rw [List.mem_cons, not_or] at oneLine
    have later := inductionHypothesis (start ++ [char]) oneLine.2
    have longer : (many (· ≠ '\n')).ways (char :: rest) =
        ((many (· ≠ '\n')).ways rest).map (Way.append ⟨[char], [], rest⟩) ++
          [⟨[], [], char :: rest⟩] := by
      simp [ways, repetitions, Ne.symm oneLine.1]
    rw [longer, List.flatMap_append, List.flatMap_map, List.head?_append]
    simp only [Way.append, List.nil_append, ← List.append_assoc]
    rw [later, Source.lastColon?]
    -- The label ends here only when it cannot end further to the right.
    cases Source.lastColon? rest with
    | some parts => simp
    | none =>
      by_cases colon : char = ':'
      · subst colon
        simp [separated (':' :: rest), Source.after?, Function.comp_def]
      · simp [separated (char :: rest), Source.after?, colon]

/-- Without parts from the start of a line there are none from a later start. -/
theorem pointParts_tail {char : Char} {rest : Text}
    (lacks : Source.pointParts? (char :: rest) = none) : Source.pointParts? rest = none := by
  rw [Source.pointParts?, Option.map_eq_none_iff] at lacks
  cases rest with
  | nil => rfl
  | cons first others =>
    rw [Source.pointParts?, Option.map_eq_none_iff]
    rw [Source.lastColon?] at lacks
    split at lacks
    · cases lacks
    · assumption

/-- The search for a point in a line finds the parts that reading the line finds. -/
theorem search_point (line : Text) (oneLine : '\n' ∉ line) :
    point.search line = (Source.pointParts? line).map fun (label, x, y) => [label, x, y] := by
  induction line with
  | nil => rfl
  | cons first rest inductionHypothesis =>
    rw [List.mem_cons, not_or] at oneLine
    have here : (point.offers (first :: rest)).head? =
        (Source.pointParts? (first :: rest)).map fun (label, x, y) => [label, x, y] := by
      have labels : (group (atLeastOne (· ≠ '\n'))).ways (first :: rest) =
          ((many (· ≠ '\n')).ways rest).map (Way.grouped ∘ Way.append ⟨[first], [], rest⟩) := by
        simp [ways, atLeastOne, ways_append, Ne.symm oneLine.1]
      rw [point, offers_append, labels, List.flatMap_map, Source.pointParts?, Option.map_map]
      exact offers_label [first] rest oneLine.2
    rw [search, here, inductionHypothesis oneLine.2]
    cases found : Source.pointParts? (first :: rest) with
    | some parts => rfl
    | none =>
      rw [pointParts_tail found]
      rfl

example : point.search "a: [1, 2] b:[.., -3] c".toList =
    some ["a: [1, 2] b".toList, "..".toList, "-3".toList] := by
  decide +kernel

end Pattern

end QuadrantChart
