/-
This file defines paths to files.
-/

import QuadrantChart.Text.Basic

namespace QuadrantChart

/-- A path from the working directory or from a root, which is one slash or exactly two. -/
structure Path where
  root : Text
  parts : List Text
  deriving DecidableEq, Repr

namespace Path

def rootOf (text : Text) : Text :=
  match (text.takeWhile (· = '/')).length with
  | 0 => []
  | 2 => ['/', '/']
  | _ => ['/']

/-- The parts of a path. Empty parts and single dots lead nowhere and are left out. -/
def ofText (text : Text) : Path where
  root := rootOf text
  parts := (Text.splitOn '/' text).filter fun part => !part.isEmpty && part != ['.']

def written (path : Path) : Text :=
  match path.root ++ Text.join ['/'] path.parts with
  | [] => ['.']
  | text => text

def isAbsolute (path : Path) : Bool :=
  !path.root.isEmpty

/-- A file name without its extension. Neither the first character nor the last one begins it. -/
def stem (name : Text) : Text :=
  let tail := name.reverse.takeWhile (· != '.')
  let stem := name.take (name.length - tail.length - 1)
  if tail.isEmpty || stem.isEmpty then name else stem

/-- Replaces the extension of the last part. -/
def withExtension (path : Path) (extension : Text) : Path :=
  match path.parts.getLast? with
  | none => path
  | some name => { path with parts := path.parts.dropLast ++ [stem name ++ extension] }

end Path

end QuadrantChart
