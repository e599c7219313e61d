/-
This file proves that indentation depends on the tree without its white space only, so that the
indentation that an earlier one left behind makes no difference.
-/

import QuadrantChart.Proofs.Markup.Tree

namespace QuadrantChart

namespace Element

def tail : Element → Text
  | .mk _ _ _ _ tail => tail

def withTail (tail : Text) : Element → Element
  | .mk name attributes children text _ => .mk name attributes children text tail

@[simp]
theorem tail_bare (element : Element) : element.bare.tail = [] := by
  cases element
  rw [bare_mk]
  rfl

theorem withTail_tail (element : Element) : element.withTail element.tail = element := by
  cases element
  rfl

theorem respaced_blank (space text : Text) (blank : Text.IsBlank text) :
    respaced space text = space := by
  rw [respaced, Text.trim_blank text blank]
  rfl

theorem lineBreak_blank (depth : Nat) : Text.IsBlank (lineBreak depth) := by
  intro char member
  rcases List.mem_cons.1 member with rfl | space
  · decide
  · rw [List.eq_of_mem_replicate space]
    decide

theorem respaceTail_blank (space : Text) (element : Element) (blank : Text.IsBlank element.tail) :
    respaceTail space element = element.withTail space := by
  obtain ⟨name, attributes, children, text, tail⟩ := element
  rw [respaceTail, respaced_blank space tail blank]
  rfl

theorem tail_indentFrom (depth : Nat) (element : Element) :
    (indentFrom depth element).tail = element.tail := by
  obtain ⟨name, attributes, children, text, tail⟩ := element
  cases children <;> rfl

theorem bare_respaceTail (space : Text) (element : Element) :
    (respaceTail space element).bare = element.bare := by
  cases element
  rw [respaceTail, bare_mk, bare_mk]

theorem bare_indentChildren (depth : Nat) (children : List Element)
    (each : ∀ child ∈ children, ∀ depth, (indentFrom depth child).bare = child.bare) :
    (indentChildren depth children).map bare = children.map bare := by
  induction children with
  | nil => rfl
  | cons child children inductionHypothesis =>
    obtain ⟨first, others⟩ := List.forall_mem_cons.1 each
    cases children with
    | nil => rw [indentChildren, List.map_singleton, List.map_singleton, bare_respaceTail, first]
    | cons next rest =>
      rw [indentChildren, List.map_cons, inductionHypothesis others, bare_respaceTail, first]
      rfl

/-- Indentation changes white space only. -/
theorem bare_indentFrom (depth : Nat) (element : Element) :
    (indentFrom depth element).bare = element.bare := by
  induction element generalizing depth with
  | mk name attributes children text tail inductionHypothesis =>
    cases children with
    | nil => rfl
    | cons child children =>
      rw [indentFrom, bare_mk, bare_mk, bare_indentChildren depth _ fun other member depth =>
        inductionHypothesis other member depth]

theorem indentChildren_bare (depth : Nat) (children : List Element)
    (blank : ∀ child ∈ children, Text.IsBlank child.tail)
    (each : ∀ child ∈ children, ∀ depth,
      indentFrom depth child = (indentFrom depth child.bare).withTail child.tail) :
    indentChildren depth children = indentChildren depth (children.map bare) := by
  have line (child : Element) (space : Text) (childBlank : Text.IsBlank child.tail)
      (childEach : ∀ depth,
        indentFrom depth child = (indentFrom depth child.bare).withTail child.tail) :
      respaceTail space (indentFrom (depth + 1) child) =
        respaceTail space (indentFrom (depth + 1) child.bare) := by
    rw [respaceTail_blank _ _ (by rwa [tail_indentFrom]), childEach,
      respaceTail_blank _ _ (by rw [tail_indentFrom, tail_bare]; exact Text.isBlank_nil)]
    cases indentFrom (depth + 1) child.bare
    rfl
  induction children with
  | nil => rfl
  | cons child children inductionHypothesis =>
    obtain ⟨firstBlank, otherBlanks⟩ := List.forall_mem_cons.1 blank
    obtain ⟨first, others⟩ := List.forall_mem_cons.1 each
    cases children with
    | nil => rw [indentChildren, line child _ firstBlank first, List.map_singleton, indentChildren]
    | cons next rest =>
      rw [indentChildren, line child _ firstBlank first, inductionHypothesis otherBlanks others]
      rfl

/-- Earlier white space between the tags makes no difference, except behind the last tag. -/
theorem Tidy.indentFrom_bare {element : Element} (tidy : Tidy element) (depth : Nat) :
    indentFrom depth element = (indentFrom depth element.bare).withTail element.tail := by
  induction tidy generalizing depth with
  | mk properName properFields blankText blankTail emptyText tidyChildren inductionHypothesis =>
    rename_i name attributes children text tail
    cases children with
    | nil =>
      rw [emptyText rfl]
      rfl
    | cons child children =>
      have lines := indentChildren_bare depth (child :: children)
        (fun other member => by cases tidyChildren other member; assumption)
        (fun other member depth => inductionHypothesis other member depth)
      rw [indentFrom, respaced_blank _ _ blankText, lines, bare_mk]
      rfl

theorem Tidy.withTail {element : Element} (tidy : Tidy element) {tail : Text}
    (blank : Text.IsBlank tail) : Tidy (element.withTail tail) := by
  obtain ⟨properName, properFields, blankText, blankTail, emptyText, tidyChildren⟩ := tidy
  exact .mk properName properFields blankText blank emptyText tidyChildren

theorem Tidy.blankTail {element : Element} (tidy : Tidy element) :
    Text.IsBlank element.tail := by
  cases tidy
  assumption

theorem indentChildren_tidy (depth : Nat) (children : List Element)
    (each : ∀ child ∈ children, ∀ depth, Tidy (indentFrom depth child)) :
    ∀ child ∈ indentChildren depth children, Tidy child := by
  have line (child : Element) (space : Nat) (tidy : ∀ depth, Tidy (indentFrom depth child)) :
      Tidy (respaceTail (lineBreak space) (indentFrom (depth + 1) child)) := by
    rw [respaceTail_blank _ _ (tidy _).blankTail]
    exact (tidy _).withTail (lineBreak_blank _)
  induction children with
  | nil =>
    intro child member
    cases member
  | cons child children inductionHypothesis =>
    obtain ⟨first, others⟩ := List.forall_mem_cons.1 each
    cases children with
    | nil =>
      intro other member
      rw [List.mem_singleton.1 member]
      exact line child depth first
    | cons next rest =>
      exact List.forall_mem_cons.2 ⟨line child (depth + 1) first, inductionHypothesis others⟩

theorem Tidy.indentFrom {element : Element} (tidy : Tidy element) (depth : Nat) :
    Tidy (indentFrom depth element) := by
  induction tidy generalizing depth with
  | mk properName properFields blankText blankTail emptyText tidyChildren inductionHypothesis =>
    rename_i name attributes children text tail
    cases children with
    | nil => exact .mk properName properFields blankText blankTail emptyText tidyChildren
    | cons child children =>
      refine .mk properName properFields ?_ blankTail ?_ ?_
      · rw [respaced_blank _ _ blankText]
        exact lineBreak_blank _
      · intro none
        cases children <;> cases none
      · exact indentChildren_tidy depth _ fun other member depth =>
          inductionHypothesis other member depth

/-- The tree of a document: tidy, and with nothing behind its last tag. -/
structure Rooted (element : Element) : Prop where
  tidy : Tidy element
  noTail : element.tail = []

/-- What an indented tree is depends on its bare tree only. -/
theorem Rooted.indent_bare {element : Element} (rooted : Rooted element) :
    element.indent = element.bare.indent := by
  have equal := rooted.tidy.indentFrom_bare 0
  rw [rooted.noTail, ← tail_bare element, ← tail_indentFrom 0 element.bare, withTail_tail] at equal
  exact equal

theorem Rooted.indent {element : Element} (rooted : Rooted element) : Rooted element.indent :=
  ⟨rooted.tidy.indentFrom 0, (tail_indentFrom 0 element).trans rooted.noTail⟩

theorem tail_appendBelow (child : Element) (steps : Nat) (element : Element) :
    (appendBelow child steps element).tail = element.tail := by
  obtain ⟨name, attributes, children, text, tail⟩ := element
  cases steps with
  | zero => rfl
  | succ steps => cases children <;> rfl

theorem Rooted.appendBelow {element : Element} (rooted : Rooted element) {child : Element}
    (tidyChild : Tidy child) (steps : Nat) : Rooted (appendBelow child steps element) :=
  ⟨tidyChild.appendBelow steps rooted.tidy,
    (tail_appendBelow child steps element).trans rooted.noTail⟩

end Element

end QuadrantChart
