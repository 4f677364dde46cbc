/-!
# Paths of files

Paths are taken as text: names between slashes. A path that begins with a slash is absolute, any
other lies below the working directory, which is written as a point.
-/

namespace DialUp.Path

/-- The path of a file below a directory. An absolute path stays as it is. -/
def join (directory file : String) : String :=
  if file.toList.head? == some '/' then file
  else if directory.isEmpty || directory.toList.getLast? == some '/' then directory ++ file
  else directory ++ "/" ++ file

/-- Goes on to a name from the names passed so far, the last one first. A point stays where it is,
and two points go back. -/
def goOn (absolute : Bool) (passed : List (List Char)) (name : List Char) : List (List Char) :=
  if name.isEmpty || name == ['.'] then passed
  else if name == ['.', '.'] then
    match passed with
    | [] => if absolute then [] else [name]
    | last :: rest => if last == ['.', '.'] then name :: passed else rest
  else name :: passed

/-- Names put together to a path. -/
def ofNames (absolute : Bool) (names : List String) : String :=
  let path := String.intercalate "/" names
  if absolute then "/" ++ path else if names.isEmpty then "." else path

/-- The names on the way of a path, without points. -/
def names (path : String) : List String :=
  let cs := path.toList
  ((cs.splitOn '/').foldl (goOn (cs.head? == some '/')) []).reverse.map String.ofList

/-- The path in its shortest form. -/
def shortest (path : String) : String := ofNames (path.toList.head? == some '/') (names path)

/-- The directory that a file lies in. -/
def directory (path : String) : String :=
  ofNames (path.toList.head? == some '/') (names path).dropLast

end DialUp.Path
