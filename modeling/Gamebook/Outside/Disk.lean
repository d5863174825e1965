import Gamebook.Fault
import Gamebook.Outside.Path

/-! A file system as a map from resolved places to files and directories. A path is resolved step by
step from the root or from the working directory; every step but the last must be a directory. -/
namespace Gamebook.Outside

/-- What a file holds: text, or bytes that are none. -/
inductive Content
  | text (s : String)
  | binary (bytes : List UInt8)
  deriving DecidableEq, Repr

inductive Node
  | file (content : Content)
  | directory
  deriving DecidableEq, Repr

abbrev Place := List (List Char)

structure Disk where
  /-- The working directory. -/
  home : Place
  nodes : Table Place Node
  deriving DecidableEq, Repr

namespace Disk

/-- The root is always a directory. -/
def node? (d : Disk) (p : Place) : Option Node := if p = [] then some .directory else d.nodes.get? p

/-- Something can be below a place only if that is a directory. -/
def checkDirectory (d : Disk) (p : Place) : Except FileFault Unit :=
  match d.node? p with
  | some .directory => .ok ()
  | some (.file _) => .error .notDirectory
  | none => .error .noEntry

def walk (d : Disk) : Place → List (List Char) → Except FileFault Place
  | p, [] => .ok p
  | p, name :: rest => do
    d.checkDirectory p
    if name = [] ∨ name = Path.here then walk d p rest
    else if name = Path.parent then walk d p.dropLast rest
    else if Path.nameLimit < Path.byteLength name then .error .nameTooLong
    else walk d (p ++ [name]) rest

def origin (d : Disk) (path : List Char) : Place := if Path.isAbsolute path then [] else d.home

/-- The place of a path, whether there is anything or not; the empty path has none. -/
def resolve (d : Disk) (path : String) : Except FileFault Place := do
  let cs := path.toList
  Path.check cs
  if cs = [] then .error .noEntry else d.walk (d.origin cs) (Path.segments cs)

def readText (d : Disk) (path : String) : Except FileFault String := do
  match d.node? (← d.resolve path) with
  | none => .error .noEntry
  | some .directory => .error .isDirectory
  | some (.file (.binary _)) => .error .notUtf8
  | some (.file (.text s)) => .ok s

def put (d : Disk) (p : Place) (n : Node) : Disk := { d with nodes := d.nodes.put p n }

/-- Makes or replaces a file in a directory that exists. -/
def writeText (d : Disk) (path text : String) : Except FileFault Disk := do
  let p ← d.resolve path
  d.checkDirectory p.dropLast
  match d.node? p with
  | some .directory => .error .isDirectory
  | _ => .ok (d.put p (.file (.text text)))

/-- Makes one directory, where there must be nothing yet; a slash may follow its name. -/
def makeDirectory (d : Disk) (start : Place) (ss : List (List Char)) : Except FileFault Disk := do
  let p ← d.walk start ((ss.reverse.dropWhile (· = [])).reverse)
  match d.node? p with
  | some _ => .error .entryExists
  | none => .ok (d.put p .directory)

def isDirectory (d : Disk) (start : Place) (ss : List (List Char)) : Bool :=
  match d.walk start ss with
  | .ok p => d.node? p = some .directory
  | .error _ => false

def orPresent (d : Disk) (start : Place) (ss : List (List Char)) :
    Except FileFault Disk → Except FileFault Unit × Disk
  | .ok made => (.ok (), made)
  | .error cause => (if d.isDirectory start ss then .ok () else .error cause, d)

/-- Makes a directory, and those above it that are missing; where that fails, those that were made
stay. -/
def makeDirectories (start : Place) : Nat → List (List Char) → Disk → Except FileFault Unit × Disk
  | 0, _, d => (.ok (), d)
  | n + 1, ss, d =>
    if ss = [] then (.ok (), d)
    else
      match d.makeDirectory start ss with
      | .error .noEntry =>
        match makeDirectories start n (Path.above ss) d with
        | (.ok (), d) => d.orPresent start ss (d.makeDirectory start ss)
        | failed => failed
      | made => d.orPresent start ss made

def makePath (d : Disk) (path : String) : Except FileFault Unit × Disk :=
  let cs := path.toList
  match Path.check cs with
  | .error cause => (.error cause, d)
  | .ok () =>
    let ss := if cs = [] then [] else Path.segments cs
    makeDirectories (d.origin cs) (ss.length + 1) ss d

end Disk
end Gamebook.Outside
