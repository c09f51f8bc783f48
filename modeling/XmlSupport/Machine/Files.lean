import XmlSupport.Machine.Fault
import XmlSupport.Machine.Path
import XmlSupport.SortedMap

/-!
# Files

A file system is a finite set of places, each named by its components below the
root. Looking a path up walks its components one by one: every one but the last
has to be a directory.
-/

namespace XmlSupport.Machine

/-- A place in a file system, its components from the root on. -/
abbrev Place : Type := List Bytes

inductive Node where
  /-- A directory; nothing can be created in a sealed one. -/
  | directory (isSealed : Bool)
  /-- Another name of a directory. -/
  | link (target : Place)
  | file (content : Bytes) (executable : Bool)
  deriving DecidableEq, Repr

structure Files where
  nodes : SortedMap Place Node

namespace Files

/-- Only the root directory. -/
def empty : Files := ⟨.empty⟩

def ofList (nodes : List (Place × Node)) : Files := ⟨.ofList nodes⟩

/-- The longest name that a component may have. -/
def maxNameLength : Nat := 255

/-- The longest path that may be looked up, its closing zero byte included. -/
def maxPathLength : Nat := 4096

def node? (files : Files) (place : Place) : Option Node :=
  if place.isEmpty then some (.directory false) else files.nodes.find? place

/-- Steps from a directory to one of its entries. -/
def descend (files : Files) (place : Place) (component : Bytes) : Except Fault Place :=
  match files.node? place with
  | some (.directory _) =>
    if component = Path.dot then .ok place
    else if component = Path.dotDot then .ok place.dropLast
    else if maxNameLength < component.length then .error .nameTooLong
    else
      let entry := place ++ [component]
      match files.node? entry with
      | some (.link target) => .ok target
      | some _ => .ok entry
      | none => .error .notFound
  | some _ => .error .notADirectory
  | none => .error .notFound

/-- A path that cannot be looked up at all. -/
def checkPath (path : Bytes) : Except Fault Unit :=
  if path.contains 0 then .error .zeroInName
  else if path.isEmpty then .error .notFound
  else if maxPathLength ≤ path.length then .error .nameTooLong
  else .ok ()

/-- Where the walk along a path begins. -/
def origin (current : Place) (path : Bytes) : Place := if Path.isAbsolute path then [] else current

/-- The place that a path names, seen from a current directory. -/
def resolve (files : Files) (current : Place) (path : Bytes) : Except Fault Place := do
  checkPath path
  let place ← (Path.components path).foldlM files.descend (origin current path)
  match files.node? place with
  | some (.file _ _) => if Path.namesDirectory path then throw .notADirectory else return place
  | _ => return place

def lookUp (files : Files) (current : Place) (path : Bytes) : Except Fault Node := do
  match files.node? (← files.resolve current path) with
  | some node => return node
  | none => throw .notFound

def read (files : Files) (current : Place) (path : Bytes) : Except Fault Bytes := do
  match ← files.lookUp current path with
  | .file content _ => return content
  | _ => throw .isADirectory

/-- The content of a file that is text throughout. -/
def readText (files : Files) (current : Place) (path : Bytes) : Except Fault String := do
  match Utf8.decode? (← files.read current path) with
  | some text => return text
  | none => throw .notText

def isDirectory (files : Files) (current : Place) (path : Bytes) : Bool :=
  match files.lookUp current path with
  | .ok (.directory _) => true
  | _ => false

/-- The names in a directory, in ascending order. -/
def names (files : Files) (place : Place) : List Bytes :=
  files.nodes.entries.filterMap fun (p, _) => if p.dropLast = place then p.getLast? else none

/-- The directory around the place that a path names, and its name there. -/
def parentOf (files : Files) (current : Place) (path : Bytes) : Except Fault (Place × Bytes) := do
  checkPath path
  let components := Path.components path
  match components.getLast? with
  | none => throw .alreadyExists
  | some name =>
    let parent ← components.dropLast.foldlM files.descend (origin current path)
    match files.node? parent with
    | some (.directory _) =>
      if name = Path.dot || name = Path.dotDot then throw .alreadyExists
      else if maxNameLength < name.length then throw .nameTooLong
      else return (parent, name)
    | some _ => throw .notADirectory
    | none => throw .notFound

def set (files : Files) (place : Place) (node : Node) : Files := ⟨files.nodes.insert place node⟩

/-- Creates a file or replaces its content. -/
def write (files : Files) (current : Place) (path content : Bytes) (executable : Bool) :
    Except Fault Files := do
  if files.isDirectory current path || Path.namesDirectory path then throw .isADirectory
  let (parent, name) ← files.parentOf current path
  return files.set (parent ++ [name]) (.file content executable)

/-- Creates a file where nothing is yet. -/
def create (files : Files) (current : Place) (path content : Bytes) : Except Fault Files := do
  if Path.namesDirectory path then throw .isADirectory
  let (parent, name) ← files.parentOf current path
  let place := parent ++ [name]
  if (files.node? place).isSome then throw .isADirectory
  else if files.node? parent = some (.directory true) then throw .notFound
  else return files.set place (.file content false)

/-- Writes behind what a file holds, which is created if it is missing. -/
def append (files : Files) (current : Place) (path content : Bytes) : Except Fault Files := do
  match files.lookUp current path with
  | .ok (.file before executable) =>
    return files.set (← files.resolve current path) (.file (before ++ content) executable)
  | _ => files.create current path content

def makeDirectory (files : Files) (current : Place) (path : Bytes) : Except Fault Files := do
  let (parent, name) ← files.parentOf current path
  let place := parent ++ [name]
  if (files.node? place).isSome then throw .alreadyExists
  else if files.node? parent = some (.directory true) then throw .notFound
  else return files.set place (.directory false)

/-- Creates a directory and those around it that are missing. Each is tried
innermost first; a directory that is there already will do. -/
def makeDirectories (files : Files) (current : Place) (absolute : Bool) :
    Nat → List Bytes → Except Fault Files
  | 0, _ => .ok files
  | fuel + 1, components =>
    if components.isEmpty then .ok files
    else
      let path := (if absolute then [Path.slash] else []) ++ [Path.slash].intercalate components
      match files.makeDirectory current path with
      | .ok files => .ok files
      | .error .notFound => do
        let files ← makeDirectories files current absolute fuel components.dropLast
        match files.makeDirectory current path with
        | .ok files => return files
        | .error fault => if files.isDirectory current path then return files else throw fault
      | .error fault => if files.isDirectory current path then .ok files else .error fault

/-- Creates the directory that a path names and those around it that are missing. -/
def ensureDirectory (files : Files) (current : Place) (path : Bytes) : Except Fault Files := do
  if path.contains 0 then throw .zeroInName
  let components := Path.components path
  files.makeDirectories current (Path.isAbsolute path) (components.length + 1) components

end Files
end XmlSupport.Machine
