/-
This file defines which parts of a tree of elements are not white space, and when a tree has only
white space between its tags.
-/

import QuadrantChart.Diagram.Element

namespace QuadrantChart

/-- White space only. -/
def Text.IsBlank (text : Text) : Prop :=
  ∀ char ∈ text, isBlank char = true

theorem Text.isBlank_nil : IsBlank [] := by
  intro char member
  cases member

theorem Text.trim_blank (text : Text) (blank : IsBlank text) : trim text = [] := by
  have gone (part : Text) (every : IsBlank part) : part.dropWhile isBlank = [] := by
    induction part with
    | nil => rfl
    | cons first rest inductionHypothesis =>
      rw [List.dropWhile_cons_of_pos (every first List.mem_cons_self)]
      exact inductionHypothesis fun char member => every char (List.mem_cons_of_mem _ member)
  rw [trim, trimBy, gone text blank]
  rfl

namespace Element

/-- The elements of a tree are reached from its root through the children of an element. -/
@[induction_eliminator]
theorem induction {motive : Element → Prop}
    (mk : ∀ name attributes children text tail, (∀ child ∈ children, motive child) →
      motive (.mk name attributes children text tail)) (element : Element) : motive element :=
  match element with
  | .mk name attributes children text tail =>
    mk name attributes children text tail fun child _ => induction mk child

/-- A name has no white space and none of the characters that end a name in a tag. -/
def isNameChar (char : Char) : Bool :=
  !(Text.isBlank char || ['<', '>', '/', '=', '"', '&', '?'].contains char)

def IsName (name : Text) : Prop :=
  name ≠ [] ∧ ∀ char ∈ name, isNameChar char = true

instance (name : Text) : Decidable (IsName name) :=
  decidable_of_iff (name ≠ [] ∧ name.all isNameChar = true)
    (and_congr_right' List.all_eq_true)

/-- An element with proper names and only white space between its tags. An element without
children is without text as well. -/
inductive Tidy : Element → Prop where
  | mk {name : Text} {attributes : Attributes} {children : List Element} {text tail : Text}
      (properName : IsName name) (properFields : ∀ field ∈ attributes, IsName field.1)
      (blankText : Text.IsBlank text) (blankTail : Text.IsBlank tail)
      (emptyText : children = [] → text = []) (tidyChildren : ∀ child ∈ children, Tidy child) :
      Tidy (.mk name attributes children text tail)

theorem Tidy.plain {name : Text} {attributes : Attributes} {children : List Element}
    (properName : IsName name) (properFields : ∀ field ∈ attributes, IsName field.1)
    (tidyChildren : ∀ child ∈ children, Tidy child) :
    Tidy (.plain name attributes children) :=
  .mk properName properFields Text.isBlank_nil Text.isBlank_nil (fun _ => rfl) tidyChildren

mutual

/-- The tree without the text in its elements and behind them. -/
def bare : Element → Element
  | .mk name attributes children _ _ => .plain name attributes (bareAll children)

def bareAll : List Element → List Element
  | [] => []
  | element :: elements => bare element :: bareAll elements

end

theorem bareAll_eq (elements : List Element) : bareAll elements = elements.map bare := by
  induction elements with
  | nil => rfl
  | cons element elements inductionHypothesis => rw [bareAll, inductionHypothesis, List.map_cons]

@[simp]
theorem bare_mk (name : Text) (attributes : Attributes) (children : List Element)
    (text tail : Text) :
    bare (.mk name attributes children text tail) = .plain name attributes (children.map bare) := by
  rw [bare, bareAll_eq]

@[simp]
theorem bare_plain (name : Text) (attributes : Attributes) (children : List Element) :
    bare (.plain name attributes children) = .plain name attributes (children.map bare) :=
  bare_mk name attributes children [] []

@[simp]
theorem children_bare (element : Element) :
    element.bare.children = element.children.map bare := by
  cases element
  rw [bare_mk]
  rfl

theorem bare_appendBelow (child : Element) (steps : Nat) (element : Element) :
    (appendBelow child steps element).bare = appendBelow child.bare steps element.bare := by
  induction steps generalizing element with
  | zero =>
    cases element
    simp [appendBelow, plain]
  | succ steps inductionHypothesis =>
    obtain ⟨name, attributes, children, text, tail⟩ := element
    cases children with
    | nil => simp [appendBelow, plain]
    | cons first others => simp [appendBelow, plain, inductionHypothesis]

theorem Tidy.appendBelow {child : Element} (tidyChild : Tidy child) (steps : Nat)
    {element : Element} (tidy : Tidy element) : Tidy (appendBelow child steps element) := by
  induction steps generalizing element with
  | zero =>
    obtain ⟨properName, properFields, blankText, blankTail, emptyText, tidyChildren⟩ := tidy
    refine .mk properName properFields blankText blankTail (fun none => ?_) fun other member => ?_
    · simp at none
    · rcases List.mem_append.1 member with earlier | last
      · exact tidyChildren other earlier
      · rw [List.mem_singleton.1 last]
        exact tidyChild
  | succ steps inductionHypothesis =>
    obtain ⟨properName, properFields, blankText, blankTail, emptyText, tidyChildren⟩ := tidy
    rename_i children text tail
    cases children with
    | nil => exact .mk properName properFields blankText blankTail emptyText tidyChildren
    | cons first others =>
      obtain ⟨tidyFirst, tidyOthers⟩ := List.forall_mem_cons.1 tidyChildren
      exact .mk properName properFields blankText blankTail (fun none => by cases none)
        (List.forall_mem_cons.2 ⟨inductionHypothesis tidyFirst, tidyOthers⟩)

end Element

end QuadrantChart
