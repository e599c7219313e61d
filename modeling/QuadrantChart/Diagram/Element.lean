/-
This file defines trees of markup elements with the white space between them, and writes them.
-/

import QuadrantChart.Text.Basic

namespace QuadrantChart

/-- Attributes are written in their order. -/
abbrev Attributes := List (Text × Text)

/-- An element has the text before its first child, and its tail is the text behind it. -/
inductive Element where
  | mk (name : Text) (attributes : Attributes) (children : List Element) (text tail : Text)

namespace Element

/-- An element with no text in it or behind it. -/
def plain (name : Text) (attributes : Attributes) (children : List Element) : Element :=
  .mk name attributes children [] []

def name : Element → Text
  | .mk name _ _ _ _ => name

def attributes : Element → Attributes
  | .mk _ attributes _ _ _ => attributes

def children : Element → List Element
  | .mk _ _ children _ _ => children

/-- The reference that stands for a character in an attribute, or the character itself. -/
def escapeChar (char : Char) : Text :=
  match char with
  | '&' => "&amp;".toList
  | '<' => "&lt;".toList
  | '>' => "&gt;".toList
  | '"' => "&quot;".toList
  | '\r' => "&#13;".toList
  | '\n' => "&#10;".toList
  | '\t' => "&#09;".toList
  | char => [char]

def escape (value : Text) : Text :=
  value.flatMap escapeChar

/-- Between elements only the characters of markup are escaped. -/
def escapeContentChar (char : Char) : Text :=
  if char = '&' || char = '<' || char = '>' then escapeChar char else [char]

def escapeContent (text : Text) : Text :=
  text.flatMap escapeContentChar

def attributeText (field : Text × Text) : Text :=
  ' ' :: field.1 ++ '=' :: '"' :: escape field.2 ++ ['"']

/-- The name of an element with its attributes. -/
def head (name : Text) (attributes : Attributes) : Text :=
  name ++ attributes.flatMap attributeText

mutual

/-- An element without content ends in its first tag. -/
def written : Element → Text
  | .mk name attributes children text tail =>
    '<' :: head name attributes ++
      (if text.isEmpty && children.isEmpty then " />".toList
      else '>' :: escapeContent text ++ writtenAll children ++ '<' :: '/' :: name ++ ['>']) ++
      escapeContent tail

def writtenAll : List Element → Text
  | [] => []
  | element :: elements => written element ++ writtenAll elements

end

/-- The line break before a line at a depth of nesting. -/
def lineBreak (depth : Nat) : Text :=
  '\n' :: List.replicate (2 * depth) ' '

/-- White space gives way to other white space, and any other text stays. -/
def respaced (space text : Text) : Text :=
  if (Text.trim text).isEmpty then space else text

def respaceTail (space : Text) : Element → Element
  | .mk name attributes children text tail =>
    .mk name attributes children text (respaced space tail)

mutual

/-- Puts the children of an element at a depth on lines of their own. -/
def indentFrom (depth : Nat) : Element → Element
  | .mk name attributes [] text tail => .mk name attributes [] text tail
  | .mk name attributes (child :: children) text tail =>
    .mk name attributes (indentChildren depth (child :: children))
      (respaced (lineBreak (depth + 1)) text) tail

/-- The line after the last child belongs to the parent, which is at the given depth. -/
def indentChildren (depth : Nat) : List Element → List Element
  | [] => []
  | [child] => [respaceTail (lineBreak depth) (indentFrom (depth + 1) child)]
  | child :: next :: children =>
    respaceTail (lineBreak (depth + 1)) (indentFrom (depth + 1) child) ::
      indentChildren depth (next :: children)

end

/-- Indents a tree from its root on. The indentation stays in the tree. -/
def indent (element : Element) : Element :=
  indentFrom 0 element

/-- Appends a child to the element that is so many steps below, always at the first child. -/
def appendBelow (child : Element) : (steps : Nat) → Element → Element
  | 0, .mk name attributes children text tail =>
    .mk name attributes (children ++ [child]) text tail
  | steps + 1, .mk name attributes (first :: others) text tail =>
    .mk name attributes (appendBelow child steps first :: others) text tail
  | _ + 1, .mk name attributes [] text tail => .mk name attributes [] text tail

/-- A document is a declaration, one element, and the end of the last line. -/
def document (element : Element) : Text :=
  "<?xml version=\"1.0\" encoding=\"UTF-8\"?>\n".toList ++ written element ++ ['\n']

end Element

end QuadrantChart
