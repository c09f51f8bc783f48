import XmlSupport.Machine.Files
import XmlSupport.Machine.Environment

/-!
# Finding programs

A program that is named by a path is taken as it is. Any other name is looked
for in the directories of the search path, one after the other.
-/

namespace XmlSupport.Shell

open Machine

/-- A file that can be started: its place, the path by which it was found, and its content. -/
structure Found where
  place : Place
  path : Bytes
  content : Bytes
  deriving DecidableEq, Repr

namespace Lookup

/-- The search path of a process without one. -/
def defaultPath : Bytes := Utf8.encode "/bin:/usr/bin"

/-- The file that a path names, if it can be started. -/
def executable (files : Files) (current : Place) (path : Bytes) : Except Fault Found := do
  let place ← files.resolve current path
  match files.node? place with
  | some (.file content true) => return ⟨place, path, content⟩
  | some _ => throw .permissionDenied
  | none => throw .notFound

/-- Looks a name up in directories. A file that may not be started is passed
over, but remembered if nothing else is found. -/
def search (files : Files) (current : Place) (name : Bytes) (fault : Fault) :
    List Bytes → Except Fault Found
  | [] => .error fault
  | directory :: rest =>
    let path := if directory.isEmpty then name else Path.join directory name
    match executable files current path with
    | .ok found => .ok found
    | .error .permissionDenied => search files current name .permissionDenied rest
    | .error .notFound => search files current name fault rest
    | .error .notADirectory => search files current name fault rest
    | .error other => .error other

/-- The program that a name stands for. -/
def find (files : Files) (current : Place) (searchPath : Option Bytes) (name : Bytes) :
    Except Fault Found :=
  if name.isEmpty then .error .notFound
  else if name.contains Path.slash then executable files current name
  else search files current name .notFound ((searchPath.getD defaultPath).splitOn Path.colon)

end Lookup

/-- How a found file is started: as a compiled program under its own name, or
as a script by the program that its first line names. -/
inductive Starter where
  | compiled (name : String)
  | script (interpreter : Bytes) (option : Option Bytes)
  /-- Neither of the two. -/
  | plain
  deriving DecidableEq, Repr

namespace Starter

def isBlank (b : UInt8) : Bool := b = 32 || b = 9

def trim (line : Bytes) : Bytes :=
  ((line.dropWhile isBlank).reverse.dropWhile isBlank).reverse

def ofLine (line : Bytes) : Starter :=
  let line := trim line
  let interpreter := line.takeWhile fun b => !isBlank b
  let option := trim (line.drop interpreter.length)
  if interpreter.isEmpty then .plain
  else .script interpreter (if option.isEmpty then none else some option)

/-- What to do with a found file, compiled programs being known by a mark. -/
def ofFound (compiledMark : Bytes) (found : Found) : Starter :=
  if found.content = compiledMark then
    .compiled (Utf8.decodeLossy (found.place.getLastD []))
  else
    match found.content with
    | 35 :: 33 :: rest => ofLine (rest.takeWhile (· != 10))
    | _ => .plain

end Starter
end XmlSupport.Shell
