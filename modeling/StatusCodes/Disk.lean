import StatusCodes.Association
import StatusCodes.HostError

/-!
# Disks

A disk is what a log file is created on: directories, devices and files, each under its path from
the root. Creating a file is the only operation that can fail, and it fails as the host does: for
a name that cannot be one, for a way that leads nowhere or through something that is no directory,
and for a place where a directory stands.
-/

namespace StatusCodes

/-- What stands under a path. -/
inductive Disk.Node (α : Type)
  | directory
  /-- A directory in which nothing can be created, and the error number of an attempt. -/
  | sealed (errno : Int32)
  /-- Takes what is written to it and keeps nothing. -/
  | device
  | file (content : List α)
  deriving DecidableEq, Repr

/-- Names from the root down. -/
abbrev Disk.Path := List String

/-- What stands under each path, and the directory that relative paths start from. -/
structure Disk (α : Type) where
  nodes : List (Disk.Path × Disk.Node α)
  workingDirectory : Disk.Path
  deriving Repr

namespace Disk

variable {α : Type}

/-- Error number for something that is not there. -/
def noEntry : HostError := .numbered 2

/-- Error number for a way through something that is no directory. -/
def notDirectory : HostError := .numbered 20

/-- Error number for a directory where a file is wanted. -/
def isDirectory : HostError := .numbered 21

/-- Error number for a name or a path that is too long. -/
def nameTooLong : HostError := .numbered 36

/-- A path cannot hold the character that ends texts on the host. -/
def brokenName : HostError :=
  .told .invalidInput "file name contained an unexpected NUL byte"

/-- The most bytes a name may have. -/
def longestName : Nat := 255

/-- The most bytes a path may have. -/
def longestPath : Nat := 4095

/-- What stands under a path. The root is a directory. -/
def node? (d : Disk α) (path : Path) : Option (Node α) :=
  if path = [] then some .directory else d.nodes.lookup path

/-- The disk with something else under a path. -/
def put (d : Disk α) (path : Path) (node : Node α) : Disk α :=
  { d with nodes := Association.put d.nodes path node }

/-- Take one step along a path that is to lead to a directory. -/
def enter (d : Disk α) (place : Path) (name : String) : Except HostError Path :=
  if name = "." then .ok place
  else if name = ".." then .ok place.dropLast
  else if longestName < name.utf8ByteSize then .error nameTooLong
  else
    match d.node? (place ++ [name]) with
    | none => .error noEntry
    | some .directory => .ok (place ++ [name])
    | some (.sealed _) => .ok (place ++ [name])
    | some .device => .error notDirectory
    | some (.file _) => .error notDirectory

/-- Create a file in a directory, or empty the file that is there. -/
def createIn (d : Disk α) (place : Path) (name : String) : Except HostError (Path × Disk α) :=
  if name = "." ∨ name = ".." then .error isDirectory
  else if longestName < name.utf8ByteSize then .error nameTooLong
  else
    let path := place ++ [name]
    match d.node? path with
    | some .directory => .error isDirectory
    | some (.sealed _) => .error isDirectory
    | some .device => .ok (path, d)
    | some (.file _) => .ok (path, d.put path (.file []))
    | none =>
        match d.node? place with
        | some (.sealed errno) => .error (.numbered errno)
        | _ => .ok (path, d.put path (.file []))

/-- The names on a path. -/
def names (path : String) : List String :=
  ((path.toList.splitOn '/').filter fun name => !name.isEmpty).map String.ofList

/-- Create a file, or empty the file that is there. A path that ends in a slash is that of a
directory. -/
def create (d : Disk α) (path : String) : Except HostError (Path × Disk α) :=
  if '\x00' ∈ path.toList then .error brokenName
  else if path = "" then .error noEntry
  else if longestPath < path.utf8ByteSize then .error nameTooLong
  else
    let root := if path.toList.head? = some '/' then [] else d.workingDirectory
    match (names path).getLast? with
    | none => .error isDirectory
    | some last => do
        let place ← (names path).dropLast.foldlM d.enter root
        if path.toList.getLast? = some '/' then .error isDirectory
        else d.createIn place last

/-- Add to a file. Anything else keeps nothing. -/
def append (d : Disk α) (path : Path) (x : α) : Disk α :=
  match d.node? path with
  | some (.file content) => d.put path (.file (content ++ [x]))
  | _ => d

/-- The files of a directory with their contents, by name. -/
def filesIn (d : Disk α) (directory : Path) : List (String × List α) :=
  d.nodes.filterMap fun (path, node) =>
    match path.getLast?, node with
    | some name, .file content => if path = directory ++ [name] then some (name, content) else none
    | _, _ => none

/-- A host with its usual directories and devices, and one directory more. -/
def withDirectory (extra : Path) : Disk α where
  nodes :=
    (["bin", "boot", "dev", "etc", "home", "lib", "media", "mnt", "opt", "root", "run", "sbin",
      "srv", "tmp", "usr", "var"].map fun name => ([name], .directory)) ++
    [ (["proc"], .sealed 2), (["sys"], .sealed 13), (["dev", "null"], .device),
      (["dev", "zero"], .device), (["dev", "full"], .device), (["etc", "passwd"], .device),
      (extra, .directory) ]
  workingDirectory := ["root"]

end Disk

end StatusCodes
