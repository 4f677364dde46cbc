import DialUp.Path

/-!
# Trees of files

A tree of files below the working directory, given by the paths of its files. Directories are there
as far as files lie in them. Of what lies outside, only the directories above are known.
-/

namespace DialUp

/-- What lies under a path. -/
inductive Found (α : Type)
  | nothing
  | directory
  | file (content : α)
  /-- Nothing that can be opened, for the given reason. -/
  | inaccessible (reason : String)
  deriving DecidableEq, Repr

namespace Files

/-- Files by the names on their way. -/
abbrev Tree (α : Type) := List (List String × α)

variable {α : Type}

/-- A tree with files under the given paths. -/
def Tree.ofPaths (files : List (String × α)) : Tree α :=
  files.map fun (path, content) => (Path.names path, content)

/-- Whether a directory is there. -/
def Tree.hasDirectory (t : Tree α) (names : List String) : Bool :=
  names.isEmpty || t.any fun (way, _) => names.length < way.length && names.isPrefixOf way

/-- The most bytes of a name. -/
def longestName : Nat := 255

/-- The most bytes of a path. -/
def longestPath : Nat := 4095

/-- What is said of names and paths that are longer. -/
def tooLong : String := "[Errno 36] File name too long"

/-- What lies along names above the working directory. -/
def above (names : List String) : Found α :=
  if names.all fun name => name == "" || name == "." || name == ".." then .directory else .nothing

/-- Goes on from a directory along names. -/
def Tree.follow (t : Tree α) (here : List String) : List String → Found α
  | [] => .directory
  | name :: rest =>
    if name == "" || name == "." then t.follow here rest
    else if name == ".." then if here.isEmpty then above rest else t.follow here.dropLast rest
    else if longestName < name.utf8ByteSize then .inaccessible tooLong
    else
      let there := here ++ [name]
      match t.lookup there with
      | some content =>
        if rest.isEmpty then .file content else .inaccessible "[Errno 20] Not a directory"
      | none => if t.hasDirectory there then t.follow there rest else .nothing

/-- What lies under a path. Nothing lies under an absolute one but the root. -/
def Tree.find (t : Tree α) (path : String) : Found α :=
  if path.isEmpty then .nothing
  else if longestPath < path.utf8ByteSize then .inaccessible tooLong
  else if path.toList.head? == some '/' then
    if (Path.names path).isEmpty then .directory else .nothing
  else t.follow [] ((path.toList.splitOn '/').map String.ofList)

end Files

end DialUp
