/-
This file proves that reading a written tree gives back the tree without its white space.
-/

import QuadrantChart.Proofs.Markup.Reader

namespace QuadrantChart

namespace Reader

variable (outer : List Opened) (inner : List Element)

theorem State.run_append (state : State) (first second : Text) :
    state.run (first ++ second) = (state.run first).bind fun next => next.run second := by
  induction first generalizing state with
  | nil => rfl
  | cons char rest inductionHypothesis =>
    rw [List.cons_append, run, run]
    cases state.step char with
    | none => rfl
    | some next => exact inductionHypothesis next

theorem State.run_cons (state next : State) (char : Char) (rest : Text)
    (steps : state.step char = some next) : state.run (char :: rest) = next.run rest := by
  rw [run, steps, Option.bind_some]

/-- Reading on from a state in the middle of a text. -/
theorem State.run_through (state next : State) (first second : Text)
    (runs : state.run first = some next) : state.run (first ++ second) = next.run second := by
  rw [run_append, runs, Option.bind_some]

theorem run_blank (text : Text) (blank : Text.IsBlank text) :
    (State.mk outer inner .content).run text = some ⟨outer, inner, .content⟩ := by
  induction text with
  | nil => rfl
  | cons char rest inductionHypothesis =>
    obtain ⟨first, others⟩ := List.forall_mem_cons.1 blank
    have notTag : char ≠ '<' := by
      rintro rfl
      exact absurd first (by decide)
    rw [State.run_cons _ ⟨outer, inner, .content⟩ _ _ (by simp [State.step, notTag, first])]
    exact inductionHypothesis others

/-- What a place collects character by character it collects from a whole text. -/
theorem run_collect (collect : Text → Place) (written : Char → Text) (collected rest : Text)
    (each : ∀ char ∈ rest, ∀ collected,
      (State.mk outer inner (collect collected)).run (written char) =
        some ⟨outer, inner, collect (collected ++ [char])⟩) :
    (State.mk outer inner (collect collected)).run (rest.flatMap written) =
      some ⟨outer, inner, collect (collected ++ rest)⟩ := by
  induction rest generalizing collected with
  | nil => rw [List.append_nil, List.flatMap_nil, State.run]
  | cons char rest inductionHypothesis =>
    obtain ⟨first, others⟩ := List.forall_mem_cons.1 each
    rw [List.flatMap_cons, State.run_through _ _ _ _ (first collected),
      inductionHypothesis (collected ++ [char]) others, List.append_assoc, List.singleton_append]

/-- The places of names collect the characters of names. -/
theorem run_name (collect : Text → Place) (collected rest : Text)
    (proper : ∀ char ∈ rest, Element.isNameChar char = true)
    (each : ∀ char, Element.isNameChar char = true → ∀ collected,
      (State.mk outer inner (collect collected)).step char =
        some ⟨outer, inner, collect (collected ++ [char])⟩) :
    (State.mk outer inner (collect collected)).run rest =
      some ⟨outer, inner, collect (collected ++ rest)⟩ := by
  have whole := run_collect outer inner collect (fun char => [char]) collected rest
    fun char member collected => State.run_cons _ _ _ _ (each char (proper char member) collected)
  rwa [List.flatMap_singleton'] at whole

/-- Every character comes back from its reference, or from itself. -/
theorem run_escapeChar (tag : Tag) (name value : Text) (char : Char) :
    (State.mk outer inner (.value tag name value)).run (Element.escapeChar char) =
      some ⟨outer, inner, .value tag name (value ++ [char])⟩ := by
  unfold Element.escapeChar
  split
  case h_8 =>
    rename_i notAmp notLess _ notQuote _ _ _
    apply State.run_cons
    simp only [State.step]
    rw [if_neg notQuote, if_neg notAmp, if_neg notLess]
    rfl
  all_goals rfl

theorem run_escape (tag : Tag) (name value : Text) :
    (State.mk outer inner (.value tag name [])).run (Element.escape value) =
      some ⟨outer, inner, .value tag name value⟩ :=
  run_collect outer inner (.value tag name) Element.escapeChar [] value fun char _ collected =>
    run_escapeChar outer inner tag name collected char

theorem run_attribute (tag : Tag) (field : Text × Text) (proper : Element.IsName field.1) :
    (State.mk outer inner (.behind tag)).run (Element.attributeText field) =
      some ⟨outer, inner, .behind ⟨tag.name, tag.attributes ++ [field]⟩⟩ := by
  obtain ⟨name, value⟩ := field
  obtain ⟨nonempty, every⟩ := proper
  obtain ⟨first, rest, rfl⟩ := List.exists_cons_of_ne_nil nonempty
  obtain ⟨firstProper, restProper⟩ := List.forall_mem_cons.1 every
  have named := run_name outer inner (.field tag) [first] rest restProper fun char proper name => by
    simp [State.step, State.move, proper]
  calc
    (State.mk outer inner (.behind tag)).run (Element.attributeText (first :: rest, value)) =
        (State.mk outer inner (.behind tag)).run
          (' ' :: first :: (rest ++ ('=' :: '"' :: (Element.escape value ++ ['"'])))) := by
      simp [Element.attributeText]
    _ = (State.mk outer inner (.before tag)).run
          (first :: (rest ++ ('=' :: '"' :: (Element.escape value ++ ['"'])))) :=
      State.run_cons _ _ _ _ rfl
    _ = (State.mk outer inner (.field tag [first])).run
          (rest ++ ('=' :: '"' :: (Element.escape value ++ ['"']))) :=
      State.run_cons _ _ _ _ (by simp [State.step, State.move, firstProper])
    _ = (State.mk outer inner (.field tag (first :: rest))).run
          ('=' :: '"' :: (Element.escape value ++ ['"'])) := State.run_through _ _ _ _ named
    _ = (State.mk outer inner (.equals tag (first :: rest))).run
          ('"' :: (Element.escape value ++ ['"'])) := State.run_cons _ _ _ _ rfl
    _ = (State.mk outer inner (.value tag (first :: rest) [])).run
          (Element.escape value ++ ['"']) := State.run_cons _ _ _ _ rfl
    _ = (State.mk outer inner (.value tag (first :: rest) value)).run ['"'] :=
      State.run_through _ _ _ _ (run_escape outer inner tag (first :: rest) value)
    _ = some ⟨outer, inner, .behind ⟨tag.name, tag.attributes ++ [(first :: rest, value)]⟩⟩ :=
      State.run_cons _ _ _ _ rfl

theorem run_attributes (tag : Tag) (attributes : Attributes)
    (proper : ∀ field ∈ attributes, Element.IsName field.1) :
    (State.mk outer inner (.behind tag)).run (attributes.flatMap Element.attributeText) =
      some ⟨outer, inner, .behind ⟨tag.name, tag.attributes ++ attributes⟩⟩ := by
  induction attributes generalizing tag with
  | nil => rw [List.append_nil, List.flatMap_nil, State.run]
  | cons field attributes inductionHypothesis =>
    obtain ⟨first, others⟩ := List.forall_mem_cons.1 proper
    rw [List.flatMap_cons, State.run_through _ _ _ _ (run_attribute outer inner tag field first),
      inductionHypothesis _ others, List.append_assoc, List.singleton_append]

/-- A name that is followed by something else has been read as a tag. -/
theorem run_named (name rest : Text) (char : Char) (other : Element.isNameChar char = false) :
    (State.mk outer inner (.naming name)).run (char :: rest) =
      (State.mk outer inner (.behind ⟨name, []⟩)).run (char :: rest) := by
  rw [State.run, State.run]
  congr 1
  simp [State.step, other, State.behindPart, State.move, State.enter]

/-- The state behind the name and the attributes at the beginning of an element. -/
theorem run_head (name : Text) (attributes : Attributes) (char : Char) (rest : Text)
    (properName : Element.IsName name)
    (properFields : ∀ field ∈ attributes, Element.IsName field.1)
    (other : Element.isNameChar char = false) :
    (State.mk outer inner .content).run ('<' :: (Element.head name attributes ++ char :: rest)) =
      (State.mk outer inner (.behind ⟨name, attributes⟩)).run (char :: rest) := by
  obtain ⟨nonempty, every⟩ := properName
  obtain ⟨first, letters, rfl⟩ := List.exists_cons_of_ne_nil nonempty
  obtain ⟨firstProper, lettersProper⟩ := List.forall_mem_cons.1 every
  have named := run_name outer inner .naming [first] letters lettersProper
    fun char proper name => by simp [State.step, State.move, proper]
  have fields := run_attributes outer inner ⟨first :: letters, []⟩ attributes properFields
  have opens : (State.mk outer inner .opened).step first =
      some ⟨outer, inner, .naming [first]⟩ := by
    have notStop : first ≠ '/' := by
      rintro rfl
      exact absurd firstProper (by decide)
    have notDeclaration : first ≠ '?' := by
      rintro rfl
      exact absurd firstProper (by decide)
    simp [State.step, State.move, notStop, notDeclaration, firstProper]
  rw [State.run_cons _ ⟨outer, inner, .opened⟩ _ _ rfl, Element.head, List.append_assoc,
    List.cons_append, State.run_cons _ _ _ _ opens, State.run_through _ _ _ _ named]
  -- The first character behind the name belongs to the attributes, or to what follows them.
  have switch : ∃ next others, attributes.flatMap Element.attributeText ++ char :: rest =
      next :: others ∧ Element.isNameChar next = false := by
    cases attributes with
    | nil => exact ⟨char, rest, rfl, other⟩
    | cons field attributes => exact ⟨' ', _, rfl, by decide⟩
  obtain ⟨next, others, split, nextOther⟩ := switch
  rw [split, List.singleton_append, run_named outer inner _ _ _ nextOther, ← split,
    State.run_through _ _ _ _ fields]
  rfl

theorem escapeContent_blank (text : Text) (blank : Text.IsBlank text) :
    Element.escapeContent text = text := by
  have kept (char : Char) (space : Text.isBlank char = true) :
      Element.escapeContentChar char = [char] := by
    have other (special : Char) (visible : Text.isBlank special = false) : char ≠ special := by
      rintro rfl
      rw [space] at visible
      cases visible
    simp [Element.escapeContentChar, other '&' (by decide), other '<' (by decide),
      other '>' (by decide)]
  induction text with
  | nil => rfl
  | cons char rest inductionHypothesis =>
    obtain ⟨first, others⟩ := List.forall_mem_cons.1 blank
    rw [Element.escapeContent, List.flatMap_cons, kept char first]
    exact congrArg (char :: ·) (inductionHypothesis others)

theorem run_writtenAll (elements : List Element)
    (each : ∀ element ∈ elements, ∀ inner, (State.mk outer inner .content).run element.written =
      some ⟨outer, inner ++ [element.bare], .content⟩) :
    (State.mk outer inner .content).run (Element.writtenAll elements) =
      some ⟨outer, inner ++ elements.map Element.bare, .content⟩ := by
  induction elements generalizing inner with
  | nil => rw [Element.writtenAll, List.map_nil, List.append_nil, State.run]
  | cons element elements inductionHypothesis =>
    obtain ⟨first, others⟩ := List.forall_mem_cons.1 each
    rw [Element.writtenAll, State.run_through _ _ _ _ (first inner), inductionHypothesis _ others,
      List.append_assoc]
    rfl

/-- The last tag of an element completes it. -/
theorem run_stop (tag : Tag) (earlier : List Element) (proper : Element.IsName tag.name) :
    (State.mk (⟨tag, earlier⟩ :: outer) inner .content).run ('<' :: '/' :: (tag.name ++ ['>'])) =
      some ⟨outer, earlier ++ [.plain tag.name tag.attributes inner], .content⟩ := by
  have named := run_name (⟨tag, earlier⟩ :: outer) inner .stopping [] tag.name proper.2
    fun char proper name => by simp [State.step, State.move, proper]
  have ends : Element.isNameChar '>' = false := by decide
  rw [State.run_cons _ ⟨⟨tag, earlier⟩ :: outer, inner, .opened⟩ _ _ rfl,
    State.run_cons _ ⟨⟨tag, earlier⟩ :: outer, inner, .stopping []⟩ _ _ rfl,
    State.run_through _ _ _ _ named]
  apply State.run_cons
  simp [State.step, ends, State.leave]

/-- Between tags, a written element is read as one more element. -/
theorem run_written {element : Element} (tidy : element.Tidy) :
    (State.mk outer inner .content).run element.written =
      some ⟨outer, inner ++ [element.bare], .content⟩ := by
  induction tidy generalizing outer inner with
  | mk properName properFields blankText blankTail emptyText tidyChildren inductionHypothesis =>
    rename_i name attributes children text tail
    have tailRuns (elements : List Element) := run_blank outer elements tail blankTail
    rw [Element.written, escapeContent_blank tail blankTail, escapeContent_blank text blankText,
      Element.bare_mk]
    cases children with
    | nil =>
      rw [emptyText rfl]
      have opens := run_head outer inner name attributes ' ' ['/', '>'] properName properFields
        (by decide)
      refine (State.run_through _ ⟨outer, inner ++ [.plain name attributes []], .content⟩ _ tail
        (opens.trans ?_)).trans (tailRuns _)
      rfl
    | cons child children =>
      have opens := run_head outer inner name attributes '>' [] properName properFields (by decide)
      have enters := opens.trans (State.run_cons _
        ⟨⟨⟨name, attributes⟩, inner⟩ :: outer, [], .content⟩ _ [] rfl)
      have texts := run_blank (⟨⟨name, attributes⟩, inner⟩ :: outer) [] text blankText
      have inside := run_writtenAll (⟨⟨name, attributes⟩, inner⟩ :: outer) [] (child :: children)
        fun other member inner => inductionHypothesis other member _ inner
      have stops := run_stop outer ([] ++ (child :: children).map Element.bare) ⟨name, attributes⟩
        inner properName
      have regrouped : '<' :: Element.head name attributes ++
          ('>' :: text ++ Element.writtenAll (child :: children) ++ '<' :: '/' :: name ++ ['>']) ++
            tail =
          '<' :: (Element.head name attributes ++ ['>']) ++ (text ++
            (Element.writtenAll (child :: children) ++
              ('<' :: '/' :: (name ++ ['>']) ++ tail))) := by
        simp only [List.append_assoc, List.cons_append, List.nil_append]
      rw [List.isEmpty_cons, Bool.and_false, if_neg (by decide), regrouped,
        State.run_through _ _ _ _ enters, State.run_through _ _ _ _ texts,
        State.run_through _ _ _ _ inside, State.run_through _ _ _ _ stops, tailRuns]
      rfl

/-- Reading a document gives back its tree without the white space. -/
theorem read_document {element : Element} (tidy : element.Tidy) :
    read? element.document = some element.bare := by
  have declares : (State.mk [] [] .content).run
      "<?xml version=\"1.0\" encoding=\"UTF-8\"?>\n".toList = some ⟨[], [], .content⟩ := by
    rfl
  have runs : (State.mk [] [] .content).run element.document =
      some ⟨[], [element.bare], .content⟩ := by
    unfold Element.document
    rw [List.append_assoc, State.run_through _ _ _ _ declares,
      State.run_through _ _ _ _ (run_written [] [] tidy)]
    rfl
  rw [read?, runs]

end Reader

end QuadrantChart
