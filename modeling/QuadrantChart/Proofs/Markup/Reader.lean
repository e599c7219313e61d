/-
This file defines a reader of markup, which knows nothing of how markup is written. It takes tags
and quoted attributes as they stand in a text, and leaves out the white space between tags.
-/

import QuadrantChart.Proofs.Markup.Tree

namespace QuadrantChart

namespace Reader

structure Tag where
  name : Text
  attributes : Attributes := []

/-- Where in a document the reader is, with what it has read of the tag there. -/
inductive Place where
  | content
  | opened
  | declaration (ending : Bool)
  | stopping (name : Text)
  | naming (name : Text)
  | behind (tag : Tag)
  | before (tag : Tag)
  | field (tag : Tag) (name : Text)
  | equals (tag : Tag) (name : Text)
  | value (tag : Tag) (name value : Text)
  | reference (tag : Tag) (name value code : Text)
  | closing (tag : Tag)

/-- An element that is not complete, with the elements in front of it. -/
structure Opened where
  tag : Tag
  earlier : List Element

/-- The open elements from the innermost one outward, and the complete elements in the innermost
one. -/
structure State where
  outer : List Opened
  inner : List Element
  place : Place

/-- The characters that references stand for. -/
def references : List (Text × Char) :=
  [("amp".toList, '&'), ("lt".toList, '<'), ("gt".toList, '>'), ("quot".toList, '"'),
    ("#13".toList, '\r'), ("#10".toList, '\n'), ("#09".toList, '\t')]

def State.move (state : State) (place : Place) : State :=
  { state with place }

/-- Goes into the element of a tag. -/
def State.enter (state : State) (tag : Tag) : State :=
  ⟨⟨tag, state.inner⟩ :: state.outer, [], .content⟩

/-- Completes an element without content. -/
def State.complete (state : State) (tag : Tag) : State :=
  ⟨state.outer, state.inner ++ [.plain tag.name tag.attributes []], .content⟩

/-- Goes out of the innermost element, whose name the last tag has to repeat. -/
def State.leave (state : State) (name : Text) : Option State :=
  match state.outer with
  | [] => none
  | ⟨tag, earlier⟩ :: outer =>
    if tag.name = name then
      some ⟨outer, earlier ++ [.plain tag.name tag.attributes state.inner], .content⟩
    else none

/-- What may follow a name or a value in a tag. -/
def State.behindPart (state : State) (tag : Tag) (char : Char) : Option State :=
  if Text.isBlank char then some (state.move (.before tag))
  else if char = '>' then some (state.enter tag)
  else if char = '/' then some (state.move (.closing tag))
  else none

/-- The state after one more character. Markup that is not well formed has none. -/
def State.step (state : State) (char : Char) : Option State :=
  match state.place with
  | .content =>
    if char = '<' then some (state.move .opened)
    else if Text.isBlank char then some state else none
  | .opened =>
    if char = '/' then some (state.move (.stopping []))
    else if char = '?' then some (state.move (.declaration false))
    else if Element.isNameChar char then some (state.move (.naming [char])) else none
  | .declaration ending =>
    if ending && char = '>' then some (state.move .content)
    else some (state.move (.declaration (char = '?')))
  | .stopping name =>
    if Element.isNameChar char then some (state.move (.stopping (name ++ [char])))
    else if char = '>' then state.leave name else none
  | .naming name =>
    if Element.isNameChar char then some (state.move (.naming (name ++ [char])))
    else state.behindPart ⟨name, []⟩ char
  | .behind tag => state.behindPart tag char
  | .before tag =>
    if Element.isNameChar char then some (state.move (.field tag [char]))
    else state.behindPart tag char
  | .field tag name =>
    if Element.isNameChar char then some (state.move (.field tag (name ++ [char])))
    else if char = '=' then some (state.move (.equals tag name)) else none
  | .equals tag name => if char = '"' then some (state.move (.value tag name [])) else none
  | .value tag name value =>
    if char = '"' then
      some (state.move (.behind ⟨tag.name, tag.attributes ++ [(name, value)]⟩))
    else if char = '&' then some (state.move (.reference tag name value []))
    else if char = '<' then none
    else some (state.move (.value tag name (value ++ [char])))
  | .reference tag name value code =>
    if char = ';' then
      (references.lookup code).map fun meant => state.move (.value tag name (value ++ [meant]))
    else some (state.move (.reference tag name value (code ++ [char])))
  | .closing tag => if char = '>' then some (state.complete tag) else none

/-- The state after a text. -/
def State.run (state : State) : Text → Option State
  | [] => some state
  | char :: rest => (state.step char).bind fun next => next.run rest

/-- The element that is the content of a document. -/
def read? (document : Text) : Option Element :=
  match (State.mk [] [] .content).run document with
  | some ⟨[], [element], .content⟩ => some element
  | _ => none

end Reader

end QuadrantChart
