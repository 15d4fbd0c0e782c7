import FrameChat.Bytes

/-!
# Trees of files

What a machine has on its disk, as far as a start looks at it.  A path is
walked name by name from the root or from the working directory.  Every name
but the last has to lead to a directory, and so does the last one if a slash
stands behind it.
-/

namespace FrameChat.Startup

/-- A place in a tree of files: the names on the way to it from the root. -/
abbrev Place := List String

/-- What is at a place. -/
inductive Node where
  | directory
  | file (content : Bytes)
  /-- takes all and holds nothing; its length cannot be set -/
  | sink
  deriving DecidableEq, Repr

/-- Why a path leads to nothing that can be used. -/
inductive PathFault where
  | missing
  | notDirectory
  | isDirectory
  | noLength
  | nameTooLong
  deriving DecidableEq, Repr

/-- How the fault is worded, with its number. -/
def PathFault.message : PathFault → String
  | .missing => "No such file or directory (os error 2)"
  | .notDirectory => "Not a directory (os error 20)"
  | .isDirectory => "Is a directory (os error 21)"
  | .noLength => "Invalid argument (os error 22)"
  | .nameTooLong => "File name too long (os error 36)"

/-- A tree of files and the directory in which paths begin that do not begin at the root. -/
structure FileTree where
  here : Place
  nodes : List (Place × Node)
  deriving DecidableEq, Repr

namespace FileTree

/-- Bytes of a name at most. -/
def nameLimit : Nat := 255

/-- Paths have fewer bytes than this. -/
def pathBound : Nat := 4096

/-- What is at a place; the root is always there. -/
def node? (tree : FileTree) (place : Place) : Option Node :=
  if place.isEmpty then some .directory else tree.nodes.lookup place

/-- Put something at a place. -/
def insert (tree : FileTree) (place : Place) (node : Node) : FileTree :=
  { tree with nodes := (place, node) :: tree.nodes }

/-- The place where a path begins. -/
def origin (tree : FileTree) (path : String) : Place :=
  if path.startsWith "/" then [] else tree.here

/-- The names of a path; one is empty wherever nothing stands between two slashes. -/
def names (path : String) : List String :=
  path.splitOn "/"

/-- The place that a name leads to, whether there is anything or not. -/
def towards (place : Place) (name : String) : Place :=
  if name = "" ∨ name = "." then place
  else if name = ".." then place.dropLast
  else place ++ [name]

/-- The places that a path passes on its way from a place. -/
def places (place : Place) (path : String) : List Place :=
  ((names path).foldl (fun (passed : List Place × Place) name =>
    (passed.1 ++ [towards passed.2 name], towards passed.2 name)) ([], place)).1

/-- Follow a name from a place. -/
def follow (tree : FileTree) (place : Place) (name : String) : Except PathFault Place :=
  if tree.node? place ≠ some .directory then .error .notDirectory
  else if nameLimit < name.utf8ByteSize then .error .nameTooLong
  else if (tree.node? (towards place name)).isNone then .error .missing
  else .ok (towards place name)

/-- Refuse a path as a whole. -/
def acceptPath (path : String) : Except PathFault Unit :=
  if path.isEmpty then .error .missing
  else if pathBound ≤ path.utf8ByteSize then .error .nameTooLong
  else .ok ()

/-- The place of a path. -/
def locate (tree : FileTree) (path : String) : Except PathFault Place := do
  acceptPath path
  (names path).foldlM tree.follow (tree.origin path)

/-- What a file holds. -/
def read (tree : FileTree) (path : String) : Except PathFault Bytes := do
  match tree.node? (← tree.locate path) with
  | none => .error .missing
  | some .directory => .error .isDirectory
  | some (.file content) => .ok content
  | some .sink => .ok []

/--
Open a file to write, which is made with the given content if it is not there.
A slash behind the last name asks for a directory, before it is looked up.
-/
def openFile (tree : FileTree) (path : String) (fresh : Bytes) : Except PathFault FileTree := do
  acceptPath path
  let trailing := path.endsWith "/"
  match ((names path).reverse.dropWhile (· = "")) with
  | [] => .error .isDirectory
  | last :: before =>
      let parent ← before.reverse.foldlM tree.follow (tree.origin path)
      if tree.node? parent ≠ some .directory then .error .notDirectory
      else if trailing ∨ last = "." ∨ last = ".." then .error .isDirectory
      else if nameLimit < last.utf8ByteSize then .error .nameTooLong
      else
        match tree.node? (parent ++ [last]) with
        | none => .ok (tree.insert (parent ++ [last]) (.file fresh))
        | some .directory => .error .isDirectory
        | some (.file _) => .ok tree
        | some .sink => .error .noLength

/-- What was just put at a place is there. -/
theorem node?_insert {tree : FileTree} {place : Place} (node : Node) (below : place ≠ []) :
    (tree.insert place node).node? place = some node := by
  cases place with
  | nil => exact absurd rfl below
  | cons name rest => simp [node?, insert]

/-- A path is followed only through directories. -/
theorem directory_of_follow {tree : FileTree} {place next : Place} {name : String}
    (result : tree.follow place name = .ok next) : tree.node? place = some .directory := by
  unfold follow at result
  split at result
  · simp at result
  · rename_i directory
    simpa using directory

end FileTree

end FrameChat.Startup
