import Marktree.Files

/-!
# File trees

Directories as trees of names, and the way that a path takes through them. Nothing is known of what
lies outside a tree but that the directories above it exist.
-/
namespace Marktree

inductive FileTree
  | file (bytes : List UInt8)
  | directory (entries : List (String × FileTree))
  deriving Inhabited

namespace FileTree

/-- The longest name in bytes. -/
def maxName : Nat := 255

/-- The longest path in bytes. -/
def maxPath : Nat := 4095

/-- Changes the entry of a name. -/
def alter (name : String) (f : Option FileTree → FileTree) :
    List (String × FileTree) → List (String × FileTree)
  | [] => [(name, f none)]
  | (n, t) :: es => if n = name then (n, f (some t)) :: es else (n, t) :: alter name f es

/-- Changes the tree at the end of a path; directories that are missing on the way are made. -/
def alterAt (f : FileTree → FileTree) : List String → FileTree → FileTree
  | [], t => f t
  | name :: names, t =>
    let entries := match t with
      | directory es => es
      | file _ => []
    directory (alter name (fun sub => alterAt f names (sub.getD (directory []))) entries)

/-- Puts a tree at the end of a path. -/
def insert (new : FileTree) : List String → FileTree → FileTree :=
  alterAt fun _ => new

/-- Makes the directories of a path. -/
def makeDirectory : List String → FileTree → FileTree :=
  alterAt id

/-- The parts of a path between slashes. -/
def names (path : String) : List String :=
  path.splitOn "/"

/-- The trees from a place up to the root; outside there is none. -/
abbrev Place := List FileTree

/-- One step of a path. -/
def step (place : Place) (name : String) : Except FileError Place :=
  match place with
  | file _ :: _ => .error .notDirectory
  | _ =>
    if name = "" || name = "." then .ok place
    else if name = ".." then .ok place.tail
    else if maxName < name.utf8ByteSize then .error .nameTooLong
    else
      match place with
      | directory es :: _ =>
        match es.lookup name with
        | some t => .ok (t :: place)
        | none => .error .missing
      | _ => .error .missing

/-- Where a path from a place leads to. A path that begins with a slash leads out of the tree. -/
def follow (place : Place) (path : String) : Except FileError Place :=
  if maxPath < path.utf8ByteSize then .error .nameTooLong
  else if path.startsWith "/" then (names path).foldlM step []
  else (names path).foldlM step place

def find (place : Place) (path : String) : Except FileError Found :=
  match follow place path with
  | .error e => .error e
  | .ok (file bytes :: _) => .ok (.file bytes)
  | .ok _ => .ok .directory

/-- The path of the nearest file with a name in the directory of a place or above it. -/
def nearest? (name : String) : Place → Option String
  | [] => none
  | t :: place =>
    let here :=
      match t with
      | directory es =>
        match es.lookup name with
        | some (file _) => true
        | _ => false
      | file _ => false
    if here then some name else (nearest? name place).map ("../" ++ ·)

/-- What a program can read that runs in a directory of the tree. -/
def files (root : FileTree) (directory : String) (configName : String) (input : List UInt8) :
    Files :=
  let place := (follow [root] directory).toOption.getD [root]
  { find := find place, nearestConfig := nearest? configName place, input }

end FileTree

end Marktree
