import ErdDeploy.Files.FilePath

/-!
What a program sees of the system it runs on: the working directory, the files, and the
variables of the environment.

A `FileTree` holds the files and folders below one folder. A path is walked name by name, and
only a folder leads further. Names and paths have a greatest length; a name that is too long is
met only where everything in front of it is there. A name that goes up from the working directory
leads out of its tree, and nothing is known of what lies there except that it is a folder; a path
that starts at the root stays in the few places that every system has.
-/

namespace ErdDeploy

/-- What stands at a path. -/
inductive FileEntry
  | file (bytes : List UInt8)
  | folder
  deriving DecidableEq, Repr

/-- Why the system does not even tell whether something stands at a path. -/
inductive LookError
  /-- A name on the way, or the path as a whole, is longer than the system allows. -/
  | tooLong
  deriving DecidableEq, Repr

/-- What is reported of a path that cannot be looked at. -/
def LookError.message : LookError → String
  | .tooLong => "The path is too long"

/-- What a look at a path finds, if anything. -/
abbrev Sight := Except LookError (Option FileEntry)

/-- A system. -/
structure Workspace where
  /-- The path of the working directory. -/
  directory : String
  look : FilePath → Sight
  setting? : String → Option String

/-- The files and folders below a folder. A folder that holds something need not be listed. -/
abbrev FileTree := List (List String × FileEntry)

namespace FileTree

/-- Whether something stands below a place. -/
def holdsBelow (tree : FileTree) (place : List String) : Bool :=
  tree.any fun entry => place.isPrefixOf entry.1 && place.length < entry.1.length

/-- What stands at a place inside the tree. -/
def at? (tree : FileTree) (place : List String) : Option FileEntry :=
  if place.isEmpty then some .folder
  else
    match tree.lookup place with
    | some entry => some entry
    | none => if tree.holdsBelow place then some .folder else none

/-- A place reached on the way along a path. -/
inductive Place
  | inside (names : List String)
  /-- Above the tree. -/
  | above

/-- What stands at a place. -/
def entry? (tree : FileTree) : Place → Option FileEntry
  | .inside names => tree.at? names
  | .above => some .folder

/-- The place that a name going up leads to. `top` is the place above the tree. -/
def Place.up (place top : Place) : Place :=
  match place with
  | .above => .above
  | .inside [] => top
  | .inside (name :: names) => .inside (name :: names).dropLast

/-- The length that a name may have, in bytes. -/
def nameLimit : Nat := 255

/-- The length that a path may have, in bytes. -/
def pathLimit : Nat := 4095

/-- What stands where some names lead from a place. -/
def walk (tree : FileTree) (top : Place) : Place → List String → Sight
  | place, [] => .ok (tree.entry? place)
  | place, name :: names =>
    match tree.entry? place with
    | some .folder =>
      if name = ".." then walk tree top (place.up top) names
      else if nameLimit < name.utf8ByteSize then .error .tooLong
      else
        match place with
        | .inside above => walk tree top (.inside (above ++ [name])) names
        | .above => .ok none
    | _ => .ok none

/-- What every system has: some folders, and a device that reads as an empty file. -/
def standard : FileTree :=
  (["dev", "null"], .file []) ::
    ["bin", "etc", "home", "opt", "proc", "root", "run", "sys", "tmp", "usr", "var"].map
      fun name => ([name], .folder)

/-- What stands at a path, where the tree is that of the working directory. Nothing has a name
with a null character. -/
def look (tree : FileTree) (path : FilePath) : Sight :=
  if path.text.contains '\x00' then .ok none
  else if pathLimit < path.text.utf8ByteSize then .error .tooLong
  else
    match path.root with
    | .here => tree.walk .above (.inside []) path.names
    | _ => standard.walk (.inside []) (.inside []) path.names

end FileTree

end ErdDeploy
