/-!
Paths of files.

A path is kept in its shortest form: slashes are single, and names that stay where they are, the
dot, are left out. A name that goes up is kept, since what it means depends on the folder.
-/

namespace ErdDeploy

/-- Where a path starts. -/
inductive PathRoot
  /-- In the working directory. -/
  | here
  | slash
  /-- Two slashes, which stay two. -/
  | doubleSlash
  deriving DecidableEq, Repr

/-- The characters that a root is written with. -/
def PathRoot.text : PathRoot → String
  | .here => ""
  | .slash => "/"
  | .doubleSlash => "//"

/-- A path. -/
structure FilePath where
  root : PathRoot
  names : List String
  deriving DecidableEq, Repr

namespace FilePath

/-- The root that a text begins with: exactly two slashes are one of their own. -/
def rootOf : List Char → PathRoot
  | '/' :: '/' :: '/' :: _ => .slash
  | '/' :: '/' :: _ => .doubleSlash
  | '/' :: _ => .slash
  | _ => .here

/-- The parts of a text between slashes. -/
def splitNames : List Char → List (List Char)
  | [] => [[]]
  | c :: cs =>
    if c = '/' then [] :: splitNames cs
    else
      match splitNames cs with
      | [] => [[c]]
      | name :: names => (c :: name) :: names

/-- The path that a text writes. -/
def ofText (text : String) : FilePath :=
  ⟨rootOf text.toList,
    ((splitNames text.toList).map String.ofList).filter fun name => name != "" && name != "."⟩

/-- The text of a path; the working directory itself is written as a dot. -/
def text (path : FilePath) : String :=
  match path.root, path.names with
  | .here, [] => "."
  | root, names => root.text ++ String.intercalate "/" names

/-- The last name of a path. -/
def lastName (path : FilePath) : String :=
  path.names.getLast?.getD ""

end FilePath

end ErdDeploy
