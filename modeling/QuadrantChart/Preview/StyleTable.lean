/-
This file reads styles, which are items with or without a value, as tables sorted by key.
-/

import QuadrantChart.Text.Basic

namespace QuadrantChart

/-- Keys ascend and occur once. -/
abbrev StyleTable := List (Text × Text)

namespace StyleTable

/-- Sets the value of a key and keeps all others. -/
def insert (key value : Text) : StyleTable → StyleTable
  | [] => [(key, value)]
  | (other, old) :: rest =>
    if key = other then (key, value) :: rest
    else if key < other then (key, value) :: (other, old) :: rest
    else (other, old) :: insert key value rest

def find? (table : StyleTable) (key : Text) : Option Text :=
  table.lookup key

/-- An item without a value has the value one. Blank items are none. -/
def item? (part : Text) : Option (Text × Text) :=
  let part := Text.trim part
  if part.isEmpty then none
  else match Text.splitFirst '=' part with
  | some (key, value) => some (Text.trim key, Text.trim value)
  | none => some (part, ['1'])

/-- The items of a style between semicolons. -/
def items (style : Text) : List (Text × Text) :=
  (Text.splitOn ';' style).filterMap item?

/-- The table of a style, in which the last item of a key counts. -/
def ofStyle (style : Text) : StyleTable :=
  (items style).foldl (fun table item => table.insert item.1 item.2) []

def contains (table : StyleTable) (key : Text) : Bool :=
  (table.find? key).isSome

/-- The colour of a key, unless it is missing, empty or said to be none. -/
def color? (table : StyleTable) (key : Text) : Option Text :=
  match table.find? key with
  | some value => if value.isEmpty ∨ value = "none".toList then none else some value
  | none => none

end StyleTable

end QuadrantChart
