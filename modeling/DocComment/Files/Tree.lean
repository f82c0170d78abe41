import DocComment.Files.Path
import DocComment.Text.Utf8

/-!
# File trees

A file tree holds directories and files under the names that lead to them from its root, which is
where relative paths start.  Above the root stands a directory of which nothing else is known: it is
where absolute paths start, it is its own parent, and no name leads anywhere from it.
-/

namespace DocComment

/-- Directories and files by the names that lead to them. -/
structure FileTree where
  directories : List (List Text)
  files : List (List Text × List UInt8)
deriving Repr

namespace FileTree

/-- The tree with directories and files at the given paths. -/
def ofPaths (directories : List Text) (files : List (Text × List UInt8)) : FileTree :=
  ⟨directories.map Path.names, files.map fun (path, content) => (Path.names path, content)⟩

/-- The greatest number of octets in a name. -/
def nameLimit : Nat := 255

/-- The number of octets that a path has to stay below. -/
def pathLimit : Nat := 4096

/-- Whether the names lead to a directory: one that is listed, or one that something stands in. -/
def hasDirectory (tree : FileTree) (names : List Text) : Bool :=
  names.isEmpty || tree.directories.any names.isPrefixOf ||
    tree.files.any fun (file, _) => names.isPrefixOf file && names != file

/-- Where the walk along a path has come to. -/
inductive Position where
  /-- The directory or file that these names lead to, if there is one. -/
  | within (names : List Text)
  /-- The directory above the root. -/
  | above
deriving DecidableEq, Repr

/-- What stands at a position. -/
def stateAt (tree : FileTree) : Position → FileState
  | .above => .directory
  | .within names =>
    match tree.files.lookup names with
    | some content => .octets content
    | none => if tree.hasDirectory names then .directory else .refused .missing

/-- The directory that a directory is in. -/
def Position.parent : Position → Position
  | .above | .within [] => .above
  | .within names => .within names.dropLast

/-- The position that a name leads to from a directory. -/
def enter (tree : FileTree) (name : Text) (here : Position) : Except Refusal Position :=
  match tree.stateAt here with
  | .refused reason => .error reason
  | .octets _ => .error .notDirectory
  | .directory =>
    if name.isEmpty || name == ['.'] then .ok here
    else if name == ['.', '.'] then .ok here.parent
    else if nameLimit < (Utf8.encode name).length then .error .nameTooLong
    else
      match here with
      | .above => .error .missing
      | .within names => .ok (.within (names ++ [name]))

/-- Follows names from a position. -/
def walk (tree : FileTree) (here : Position) : (names : List Text) → FileState
  | [] => tree.stateAt here
  | name :: rest =>
    match tree.enter name here with
    | .error reason => .refused reason
    | .ok next => tree.walk next rest

/-- What stands at a path. -/
def lookup (tree : FileTree) (path : Text) : FileState :=
  if path.contains '\x00' then .refused .nullCharacter
  else if path.isEmpty then .refused .missing
  else if pathLimit ≤ (Utf8.encode path).length then .refused .nameTooLong
  else
    let start := if path.head? = some '/' then .above else .within []
    tree.walk start (Text.pieces '/' path)

end FileTree

end DocComment
