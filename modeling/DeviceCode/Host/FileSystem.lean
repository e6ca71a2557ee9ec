import DeviceCode.Bytes

/-!
# Files of the host

A path is read from the working folder, or from the root when it starts with a slash. Empty parts
and single dots stand for the folder reached so far, two dots for the one above. A path that goes on
after something that is no folder is refused, as is one that ends in a slash there. No path may hold
the character zero, and paths and their parts have a greatest length in UTF-8 bytes.

`locate` follows links, so two paths name the same thing exactly when they lead to the same place.
-/

namespace DeviceCode.Host

/-- A place in the file system: the names from the root down. -/
abbrev Place := List String

/-- Why a file could not be read. -/
inductive FileFault where
  | notFound
  | isDirectory
  | notADirectory
  | nameTooLong
  | zeroInName
  deriving DecidableEq, Repr

def FileFault.message : FileFault → String
  | .notFound => "No such file or directory (os error 2)"
  | .isDirectory => "Is a directory (os error 21)"
  | .notADirectory => "Not a directory (os error 20)"
  | .nameTooLong => "File name too long (os error 36)"
  | .zeroInName => "file name contained an unexpected NUL byte"

/-- The most bytes in one part of a path. -/
def maxPartBytes : Nat := 255

/-- The most bytes in a path. -/
def maxPathBytes : Nat := 4095

/-- What is found at a place. -/
inductive Node where
  | folder
  | file (content : Bytes)
  /-- Another name for the thing at `target`. -/
  | link (target : Place)
  /-- A file that can still be read but has no place of its own any more. -/
  | detached (content : Bytes)
  deriving DecidableEq, Repr

/-- The files that a program sees. The root is a folder. -/
structure FileSystem where
  nodes : List (Place × Node)
  workingFolder : Place
  deriving DecidableEq, Repr

namespace FileSystem

variable (fs : FileSystem)

def node? (p : Place) : Option Node :=
  if p = [] then some .folder else (fs.nodes.find? (·.1 == p)).map (·.2)

/-- Follow the parts of a path from a place. -/
def walk (here : Place) : List String → Except FileFault Place
  | [] => .ok here
  | part :: parts =>
    if fs.node? here ≠ some .folder then .error .notADirectory
    else if part = "" ∨ part = "." then walk here parts
    else if part = ".." then walk here.dropLast parts
    else if maxPartBytes < part.utf8ByteSize then .error .nameTooLong
    else
      match fs.node? (here ++ [part]) with
      | none => .error .notFound
      | some (.link target) => walk target parts
      | some _ => walk (here ++ [part]) parts

/-- The place that a path leads to. -/
def locate (path : String) : Except FileFault Place :=
  if path.contains '\x00' then .error .zeroInName
  else if path = "" then .error .notFound
  else if maxPathBytes < path.utf8ByteSize then .error .nameTooLong
  else
    match path.splitOn "/" with
    | "" :: parts => fs.walk [] parts
    | parts => fs.walk fs.workingFolder parts

/-- The content of the file at a path. -/
def read (path : String) : Except FileFault Bytes := do
  match fs.node? (← fs.locate path) with
  | some (.file content) => return content
  | some (.detached content) => return content
  | some .folder => throw .isDirectory
  | _ => throw .notFound

/-- The place of the thing at a path, if it has one of its own. -/
def canonical? (path : String) : Option Place :=
  match fs.locate path with
  | .error _ => none
  | .ok p =>
    match fs.node? p with
    | some (.detached _) => none
    | some _ => some p
    | none => none

/-- Put a node at a place, whatever was there. -/
def put (p : Place) (n : Node) : FileSystem :=
  { fs with nodes := (p, n) :: fs.nodes.filter (·.1 != p) }

/-- Write a file. A new one needs a name and a folder that is there already; what is no file stays
as it is. -/
def write (path : String) (content : Bytes) : FileSystem :=
  match fs.locate path with
  | .ok p =>
    match fs.node? p with
    | some (.file _) => fs.put p (.file content)
    | _ => fs
  | .error .notFound =>
    let parts := path.splitOn "/"
    let folder := if parts.length ≤ 1 then "." else "/".intercalate parts.dropLast ++ "/"
    match parts.getLastD "", fs.locate folder with
    | "", _ => fs
    | _, .error _ => fs
    | name, .ok place => fs.put (place ++ [name]) (.file content)
  | .error _ => fs

/-- Make the folders below a place that are not there yet. -/
def makeFolders (fs : FileSystem) (here : Place) : List String → FileSystem
  | [] => fs
  | part :: parts =>
    let place := here ++ [part]
    makeFolders (if fs.node? place = none then fs.put place .folder else fs) place parts

/-- Write a file below the working folder and make the folders on the way to it. -/
def install (path : String) (content : Bytes) : FileSystem :=
  (fs.makeFolders fs.workingFolder (path.splitOn "/").dropLast).write path content

/-- Remove the file at a path; the answer is whether there was one. -/
def remove (path : String) : Bool × FileSystem :=
  match fs.locate path with
  | .ok p =>
    match fs.node? p with
    | some (.file _) => (true, { fs with nodes := fs.nodes.filter (·.1 != p) })
    | _ => (false, fs)
  | .error _ => (false, fs)

end FileSystem

end DeviceCode.Host
