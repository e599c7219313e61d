/-
This file defines trees of files with their permissions, and what can be done with a file of them.
-/

import QuadrantChart.File.Path
import QuadrantChart.Text.Escape
import QuadrantChart.Text.Utf8

namespace QuadrantChart

/-- Why a file cannot be read or written. -/
inductive FileFault where
  | missing
  | denied
  | notDirectory
  | isDirectory
  | nameTooLong
  | nullCharacter
  deriving DecidableEq, Repr

namespace FileFault

/-- The number and the text of a system error. A null character never reaches the system. -/
def systemError? : FileFault → Option (Nat × Text)
  | .missing => some (2, "No such file or directory".toList)
  | .denied => some (13, "Permission denied".toList)
  | .notDirectory => some (20, "Not a directory".toList)
  | .isDirectory => some (21, "Is a directory".toList)
  | .nameTooLong => some (36, "File name too long".toList)
  | .nullCharacter => none

def all : List FileFault :=
  [.missing, .denied, .notDirectory, .isDirectory, .nameTooLong, .nullCharacter]

/-- The fault with the number of a system error. -/
def ofNumber? (number : Nat) : Option FileFault :=
  all.find? fun fault => (fault.systemError?.map Prod.fst) == some number

def message (fault : FileFault) (path : Path) : Text :=
  match fault.systemError? with
  | some (number, text) =>
    "[Errno ".toList ++ Text.ofNat number ++ "] ".toList ++ text ++ ": ".toList ++
      Text.quoted path.written
  | none => "embedded null byte".toList

end FileFault

/-- What a user may do with a node. Only a directory is searched. -/
structure Access where
  read : Bool := true
  write : Bool := true
  search : Bool := true
  deriving DecidableEq, Repr

inductive FileNode where
  | directory (access : Access := {})
  | file (content : Bytes) (access : Access := {})
  deriving DecidableEq, Repr

namespace FileNode

def access : FileNode → Access
  | directory access => access
  | file _ access => access

end FileNode

/-- Nodes at their locations, which are parts from the root on, and the working directory. Nothing
else exists but the root. -/
structure FileTree where
  workingDirectory : List Text
  nodes : List (List Text × FileNode)
  deriving DecidableEq, Repr

namespace FileTree

def node? (tree : FileTree) (location : List Text) : Option FileNode :=
  (tree.nodes.lookup location).or (if location.isEmpty then some .directory else none)

/-- The largest number of bytes in a part of a path. -/
def partLimit : Nat :=
  255

/-- The largest number of bytes in a path. -/
def pathLimit : Nat :=
  4095

def byteCount (text : Text) : Nat :=
  (Text.encodeUtf8 text).length

/-- Follows the parts of a path from a location on. What the last part leads to need not exist. -/
def follow (tree : FileTree) (location : List Text) : List Text → Except FileFault (List Text)
  | [] => .ok location
  | part :: parts =>
    match tree.node? location with
    | none => .error .missing
    | some (.file _ _) => .error .notDirectory
    | some (.directory access) =>
      if !access.search then .error .denied
      else if part = ['.', '.'] then tree.follow location.dropLast parts
      else if partLimit < byteCount part then .error .nameTooLong
      else tree.follow (location ++ [part]) parts

def locate (tree : FileTree) (path : Path) : Except FileFault (List Text) :=
  if path.written.contains '\x00' then .error .nullCharacter
  else if pathLimit < byteCount path.written then .error .nameTooLong
  else tree.follow (if path.isAbsolute then [] else tree.workingDirectory) path.parts

/-- Whether something is at a path, which takes no permission to open it. -/
def check (tree : FileTree) (path : Path) : Option FileFault :=
  match tree.locate path with
  | .error fault => some fault
  | .ok location => if (tree.node? location).isSome then none else some .missing

/-- Only when a path has been opened does it turn out to be a directory. -/
def read (tree : FileTree) (path : Path) : Except FileFault Bytes := do
  match tree.node? (← tree.locate path) with
  | none => throw .missing
  | some (.directory access) => throw (if access.read then .isDirectory else .denied)
  | some (.file content access) => if access.read then return content else throw .denied

/-- Puts a node at a location. -/
def put (tree : FileTree) (location : List Text) (node : FileNode) : FileTree :=
  { tree with
    nodes := (tree.nodes.filter fun (other, _) => other != location) ++ [(location, node)] }

/-- The access to a file that is opened for writing. A file that is new, which its directory has to
allow, is open to its owner. -/
def writeAccess (tree : FileTree) (location : List Text) : Except FileFault Access :=
  match tree.node? location with
  | some (.directory _) => .error .isDirectory
  | some (.file _ access) => if access.write then .ok access else .error .denied
  | none =>
    if (tree.node? location.dropLast).any (·.access.write) then .ok {} else .error .denied

/-- Replaces the content of a file, or makes the file in a directory that exists. -/
def write (tree : FileTree) (path : Path) (content : Bytes) : Except FileFault FileTree := do
  let location ← tree.locate path
  return tree.put location (.file content (← tree.writeAccess location))

/-- Follows the parts of a path from a location on and makes the directories that are missing. -/
def enter (tree : FileTree) (location : List Text) : List Text → FileTree × List Text
  | [] => (tree, location)
  | part :: parts =>
    if part = ['.', '.'] then tree.enter location.dropLast parts
    else
      let next := location ++ [part]
      let tree := if (tree.node? next).isSome then tree else tree.put next .directory
      tree.enter next parts

/-- Adds a file with the directories that its path leads through. -/
def addFile (tree : FileTree) (path : Path) (content : Bytes) : FileTree :=
  let (tree, location) := tree.enter tree.workingDirectory path.parts.dropLast
  tree.put (location ++ path.parts.drop (path.parts.length - 1)) (.file content)

/-- The tree of a working directory with the given directories and files in it. -/
def ofContents (workingDirectory : List Text) (directories : List Path)
    (files : List (Path × Bytes)) : FileTree :=
  let empty : FileTree := { workingDirectory, nodes := [] }
  let tree := (empty.enter [] workingDirectory).1
  let tree := directories.foldl
    (fun tree path => (tree.enter workingDirectory path.parts).1) tree
  files.foldl (fun tree (path, content) => tree.addFile path content) tree

/-- The files in the working directory that are new or have another content than before. -/
def changes (before after : FileTree) : List (Path × Bytes) :=
  after.nodes.filterMap fun (location, node) =>
    match node with
    | .directory _ => none
    | .file content _ =>
      if after.workingDirectory.isPrefixOf location && before.node? location != some node then
        some (⟨[], location.drop after.workingDirectory.length⟩, content)
      else none

end FileTree

end QuadrantChart
