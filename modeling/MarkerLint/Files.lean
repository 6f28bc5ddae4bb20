import MarkerLint.Text.Lines

/-!
# Files

A snapshot of a tree of files: the files with their contents, and directories. Paths inside the tree
are lists of names from its root; the root itself has a name that every printed path starts with.
-/

namespace MarkerLint

/-- What stands at a path. -/
inductive FileNode where
  | directory
  | file (content : List UInt8)
deriving Repr

/-- A tree of files. A directory that holds anything need not be listed. If the root has a name, the
tree is a part of a larger one of which nothing is known. -/
structure FileTree where
  root : String
  nodes : List (List String × FileNode)

/-- A path as it was given: the slashes that it begins with if it starts from the root, and its
names. Empty names and names for the directory itself are left out. -/
structure GivenPath where
  slashes : Nat
  names : List String
deriving DecidableEq, Repr

namespace GivenPath

/-- How many slashes at the beginning of a path are kept: two stay two, and more count as one. -/
def keptSlashes (cs : List Char) : Nat :=
  let n := (cs.takeWhile (· == '/')).length
  if n ≤ 2 then n else 1

/-- The path that a text stands for. -/
def ofText (s : String) : GivenPath :=
  { slashes := keptSlashes s.toList
    names := (((Text.splitAt '/' s.toList).filter fun part =>
      part != [] && part != ['.']).map String.ofList) }

/-- The path starts from the root. -/
def isAbsolute (p : GivenPath) : Bool :=
  p.slashes != 0

/-- The text of a path. -/
def text (p : GivenPath) : String :=
  let names := String.intercalate "/" p.names
  if p.isAbsolute then String.ofList (List.replicate p.slashes '/') ++ names
  else if p.names.isEmpty then "." else names

/-- The text of a path ends in the way that only a directory can be named. -/
def namesDirectory (s : String) : Bool :=
  match (Text.splitAt '/' s.toList).getLast? with
  | some last => last == [] || last == ['.']
  | none => true

end GivenPath

namespace FileTree

/-- One path begins with the other and is longer. -/
def isInside (outer inner : List String) : Bool :=
  outer.isPrefixOf inner && outer.length != inner.length

/-- What stands at a path from the root. -/
def node? (t : FileTree) (path : List String) : Option FileNode :=
  match t.nodes.find? fun e => e.1 == path with
  | some (_, n) => some n
  | none =>
      if path.isEmpty || t.nodes.any (fun e => isInside path e.1) then some .directory else none

/-- A directory stands at a path. -/
def isDirectory (t : FileTree) (path : List String) : Bool :=
  match t.node? path with
  | some .directory => true
  | _ => false

/-- The tree is all there is. -/
def isWhole (t : FileTree) : Bool :=
  t.root.isEmpty

/-- The place that a name leads to. Above the root there is nothing but the root itself, unless the
tree is a part of a larger one. -/
def step (t : FileTree) (here : List String) (name : String) : Option (List String) :=
  if name = ".." then if here.isEmpty && !t.isWhole then none else some here.dropLast
  else some (here ++ [name])

/-- The place that names lead to, one after the other. Every place on the way must be a directory.
-/
def walk (t : FileTree) (here : List String) : List String → Option (List String)
  | [] => some here
  | name :: rest =>
      if t.isDirectory here then (t.step here name).bind fun next => walk t next rest else none

/-- The place that names stand for, whether or not anything is there. -/
def resolve (t : FileTree) (here : List String) : List String → Option (List String)
  | [] => some here
  | name :: rest => (t.step here name).bind fun next => resolve t next rest

/-- Where a given path starts, seen from a current directory. -/
def origin? (t : FileTree) (here : List String) (p : GivenPath) : Option (List String) :=
  if !p.isAbsolute then some here else if t.isWhole then some [] else none

/-- The place that a given path stands for, whether or not anything is there. -/
def place? (t : FileTree) (here : List String) (p : GivenPath) : Option (List String) :=
  (t.origin? here p).bind fun start => t.resolve start p.names

/-- The place that a given path leads to, and what stands there. -/
def lookup? (t : FileTree) (here : List String) (p : GivenPath) :
    Option (List String × FileNode) := do
  let start ← t.origin? here p
  let place ← t.walk start p.names
  let node ← t.node? place
  some (place, node)

/-- A file stands where the text of a path leads. -/
def isFileAt (t : FileTree) (here : List String) (path : String) : Bool :=
  match t.lookup? here (.ofText path) with
  | some (_, .file _) => !GivenPath.namesDirectory path
  | _ => false

/-- A full path as it is printed. -/
def pathText (t : FileTree) (path : List String) : String :=
  t.root ++ "/" ++ String.intercalate "/" path

/-- The nearest place of that name: in the directory, or in the nearest one around it. -/
def nearest? (t : FileTree) (name : String) (path : List String) :
    Option (List String × FileNode) :=
  go path.length path
where
  /-- Looks in the directory, and in so many directories around it. -/
  go : Nat → List String → Option (List String × FileNode)
    | 0, here => (t.node? (here ++ [name])).map fun n => (here ++ [name], n)
    | k + 1, here =>
        match t.node? (here ++ [name]) with
        | some n => some (here ++ [name], n)
        | none => go k here.dropLast

end FileTree

end MarkerLint
