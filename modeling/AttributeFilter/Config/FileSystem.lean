/-
**Files.**

A file system is what it says about every path. `FileTree.entry` is one of them: files with their
names and contents, and a working directory. A path is followed name by name, from the root if it
begins with a slash and from the working directory if it does not: a dot stays, two dots go up, and a
name goes down. What is passed on the way has to be a directory, and the directories are those in
which there is a file, with the working directory and what lies above it.
-/

import AttributeFilter.Text.OsString

namespace AttributeFilter

/-- What a path names. -/
inductive Entry
  | missing
  /-- Something that cannot be read as a text: a directory, say. -/
  | unreadable
  | file (content : String)
deriving Repr, DecidableEq

/-- What every path names. -/
abbrev FileSystem := OsString → Entry

/-- A text cut at every slash. -/
def splitPath : List Char → List (List Char)
  | [] => [[]]
  | c :: rest =>
    if c = '/' then [] :: splitPath rest
    else
      match splitPath rest with
      | [] => [[c]]
      | name :: others => (c :: name) :: others

/-! ### Trees of files -/

/-- Files by their paths, with their contents, and the path of the working directory. -/
structure FileTree where
  workingDirectory : String
  files : List (String × String)

namespace FileTree

/-- A place in a tree, by the names that lead to it, the last one first. -/
abbrev Place := List (List Char)

/-- Go from a place by one name of a path. The root is above itself. -/
def Place.go (place : Place) (name : List Char) : Place :=
  if name = [] ∨ name = ['.'] then place
  else if name = ['.', '.'] then place.tail
  else name :: place

/-- Where a path starts: at the root, or in the working directory. -/
def start (tree : FileTree) (path : String) : Place :=
  if path.toList.head? = some '/' then []
  else (splitPath tree.workingDirectory.toList).foldl Place.go []

/-- Where a path leads, whatever there is on the way. -/
def place (tree : FileTree) (path : String) : Place :=
  (splitPath path.toList).foldl Place.go (tree.start path)

/-- The content of the file at a place. -/
def contentAt? (tree : FileTree) (place : Place) : Option String :=
  (tree.files.find? fun file => tree.place file.1 == place).map Prod.snd

/-- Whether there is a directory at a place. -/
def isDirectory (tree : FileTree) (place : Place) : Bool :=
  place.isSuffixOf (tree.start "") ||
    tree.files.any fun file => place.isSuffixOf (tree.place file.1).tail

/-- What further names lead to from a directory. -/
def entryFrom (tree : FileTree) (place : Place) : List (List Char) → Entry
  | [] => .unreadable
  | name :: rest =>
    let there := place.go name
    if tree.isDirectory there then tree.entryFrom there rest
    else
      match tree.contentAt? there, rest with
      | some content, [] => .file content
      | _, _ => .missing

/-- How many bytes a path may have. -/
def maxPathBytes : Nat := 4095

/-- What a path names. The empty path names nothing, nor does one that is too long. All names of the
tree are texts, so a path that is none names nothing either. -/
def entry (tree : FileTree) : FileSystem
  | .text path =>
    if path = "" ∨ maxPathBytes < path.utf8ByteSize then .missing
    else tree.entryFrom (tree.start path) (splitPath path.toList)
  | .bytes _ _ => .missing

end FileTree

end AttributeFilter
