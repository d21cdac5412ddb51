import ErdDeploy.Data.Value

/-!
A TOML document while it is read.

Names are written into tables that stand at paths. Some paths may not be touched again: the
value of a name, be it an array or a table written in place, is closed as a whole; a table with
a header may not get a second one; and a table that came into being through a dotted name may
not be opened by a later header, nor extended from a later section.
-/

namespace ErdDeploy.Toml

/-- The names that lead to a value. -/
abbrev Path := List String

/-- The members of a table. -/
abbrev Members := List (String × Value)

/-- Change the table at a path; tables that are not there yet are made. With `intoLists`, the
path goes on in the last item of a list. -/
def alterAt (intoLists : Bool) (change : Members → Option Members) :
    Path → Members → Option Members
  | [], members => change members
  | name :: path, members =>
    match members.lookup name with
    | none => (alterAt intoLists change path []).map fun inner =>
        Value.putMember name (.record inner) members
    | some (.record inner) => (alterAt intoLists change path inner).map fun inner =>
        Value.putMember name (.record inner) members
    | some (.list items) =>
      match intoLists, items.getLast? with
      | true, some (.record inner) => (alterAt intoLists change path inner).map fun inner =>
          Value.putMember name (.list (items.dropLast ++ [.record inner])) members
      | _, _ => none
    | some _ => none

/-- Write a new name. -/
def addMember (name : String) (value : Value) (members : Members) : Option Members :=
  if (members.lookup name).isSome then none else some (members ++ [(name, value)])

/-- Add an empty table to the list of a name, which is made if it is not there. -/
def addItem (name : String) (members : Members) : Option Members :=
  match members.lookup name with
  | none => some (members ++ [(name, .list [.record []])])
  | some (.list items) => some (Value.putMember name (.list (items ++ [.record []])) members)
  | some _ => none

/-- Whether a value holds others. -/
def isContainer : Value → Bool
  | .list _ => true
  | .record _ => true
  | _ => false

/-- Apply a function to the last name of a path and to the path before it. A path without names
is none. -/
def withLast {α : Type} (path : Path) (f : Path → String → Option α) : Option α :=
  path.getLast?.bind fun name => f path.dropLast name

/-! ## Tables written in place -/

/-- A table that is written in place, and the paths in it that are closed. -/
structure Inline where
  members : Members
  closed : List Path

namespace Inline

/-- A table without names. -/
def empty : Inline :=
  ⟨[], []⟩

/-- Write the value of a path. -/
def assign (table : Inline) (path : Path) (value : Value) : Option Inline :=
  if table.closed.any fun closed => closed.isPrefixOf path then none
  else
    (withLast path fun parent name =>
      alterAt false (addMember name value) parent table.members).map fun members =>
        ⟨members, if isContainer value then path :: table.closed else table.closed⟩

end Inline

/-! ## Documents -/

/-- What was read of a document. -/
structure Document where
  members : Members
  /-- The path of the last header. -/
  header : Path
  /-- The paths whose values are closed as a whole. -/
  closed : List Path
  /-- The tables that may not be opened by a header. -/
  opened : List Path
  /-- The tables made by dotted names since the last header. -/
  dotted : List Path

namespace Document

/-- A document without names. -/
def empty : Document :=
  ⟨[], [], [], [], []⟩

/-- Whether a path leads to or into a closed value. -/
def isClosed (document : Document) (path : Path) : Bool :=
  document.closed.any fun closed => closed.isPrefixOf path

/-- End the section: what its dotted names made may not be opened any more. -/
def endSection (document : Document) : Document :=
  { document with opened := document.dotted ++ document.opened, dotted := [] }

/-- The header of a table. -/
def openTable (document : Document) (path : Path) : Option Document :=
  let document := document.endSection
  if document.opened.contains path || document.isClosed path then none
  else
    (alterAt true some path document.members).map fun members =>
      { document with
        members := members, header := path, opened := path :: document.opened }

/-- Forget what was said about a path and all below it. -/
def forget (document : Document) (path : Path) : Document :=
  { document with
    closed := document.closed.filter fun known => !path.isPrefixOf known
    opened := document.opened.filter fun known => !path.isPrefixOf known }

/-- The header of a further item in a list of tables. -/
def openItem (document : Document) (path : Path) : Option Document :=
  let document := document.endSection
  if document.isClosed path then none
  else
    (withLast path fun parent name => alterAt true (addItem name) parent document.members).map
      fun members =>
        { document.forget path with
          members := members, header := path
          opened := path :: (document.forget path).opened }

/-- The paths of the tables that a dotted name passes through, below a header. -/
def passed (header : Path) : Path → List Path
  | [] => []
  | [_] => []
  | name :: path => (header ++ [name]) :: passed (header ++ [name]) path

/-- Write the value of a name, dotted or not. -/
def assign (document : Document) (path : Path) (value : Value) : Option Document :=
  let whole := document.header ++ path
  let through := passed document.header path
  if through.any document.opened.contains || document.isClosed whole.dropLast then none
  else
    (withLast whole fun parent name =>
      alterAt true (addMember name value) parent document.members).map fun members =>
        { document with
          members := members
          closed := if isContainer value then whole :: document.closed else document.closed
          dotted := through ++ document.dotted }

end Document

end ErdDeploy.Toml
