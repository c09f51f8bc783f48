import XmlSupport.Cli.Run
import XmlSupport.Shell.Start

/-!
# The program

Reads what a run depends on, runs the command line on it, and writes what it
gives. Files and scripts that the command line names are taken over into the
machine on which it runs.
-/

namespace XmlSupport.Main

open Machine

/-- Where the kernel shows a process its own environment. -/
def environmentFile : String := "/proc/self/environ"

def blockOf (bytes : Bytes) : Environment.Block := bytes.splitOn 0

/-- The paths of files that a command line may read or start. -/
def wanted (env : Environment) (args : List Bytes) : List (Bytes × Bool) :=
  let settings := match Cli.Arguments.parse args with
    | .ok (.command a) => a.settings.toList
    | .ok (.run a) => a.settings.toList
    | _ => []
  let directories := ((env.get? "PATH").getD Shell.Lookup.defaultPath).splitOn Path.colon
  settings.map (·, false) ++
    directories.map fun d => (Path.joinName d Launch.runtime, true)

def readBytes (path : String) : IO (Option Bytes) := do
  try
    return some (← IO.FS.readBinFile path).toList
  catch _ => return none

/-- Adds a file to those that the run can see, if it is there. -/
def load (current : Place) (files : Files) (path : Bytes) (executable : Bool) : IO Files := do
  let some name := Utf8.decode? path | return files
  let some content ← readBytes name | return files
  let directory := (path.reverse.dropWhile (· != Path.slash)).reverse
  let files := (files.ensureDirectory current directory).toOption.getD files
  return (files.write current path content executable).toOption.getD files

/-- Where the kernel shows a process its user, and where the users' homes are listed. -/
def statusFile : String := "/proc/self/status"

def accountsFile : String := "/etc/passwd"

/-- The home in the line of a user, the third field being its number and the sixth its home. -/
def homeOf (user accounts : String) : Option Bytes :=
  let home? (line : String) : Option String :=
    match line.splitOn ":" with
    | [_, _, number, _, _, home, _] => if number = user && !home.isEmpty then some home else none
    | _ => none
  ((accounts.splitOn "\n").findSome? home?).map Utf8.encode

def accountHome : IO (Option Bytes) := do
  let some status := Utf8.decode? ((← readBytes statusFile).getD []) | return none
  let some accounts := Utf8.decode? ((← readBytes accountsFile).getD []) | return none
  let user := (status.splitOn "\n").findSome? fun line =>
    match line.splitOn "\t" with
    | "Uid:" :: user :: _ => some user
    | _ => none
  return user.bind fun user => homeOf user accounts

def programDirectory : IO (Except Fault Bytes) := do
  try
    return .ok (Utf8.encode (toString (← IO.appDir)))
  catch _ => return .error .notFound

/-- Only a server needs the input. -/
def readInput (args : List Bytes) : IO Bytes := do
  match Cli.Arguments.parse args with
  | .ok (.run _) => return Utf8.encode (← (← IO.getStdin).readToEnd)
  | _ => return []

def surroundings (args : List Bytes) : IO Cli.Surroundings := do
  let block := blockOf ((← readBytes environmentFile).getD [])
  let current := Path.components (Utf8.encode (toString (← IO.currentDir)))
  let start := (Layout.files.ensureDirectory [] (Utf8.encode (toString (← IO.currentDir)))).toOption
  let mut files := start.getD Layout.files
  for (path, executable) in wanted block.snapshot args do
    files ← load current files path executable
  return {
    files := files
    current := current
    block := block
    input := ← readInput args
    accountHome := ← accountHome
    programDirectory := ← programDirectory
    starter := fun files => Shell.Start.starter files current }

def writeBytes (stream : IO.FS.Stream) (bytes : Bytes) : IO Unit :=
  stream.write ⟨bytes.toArray⟩

/-- Appends entries to the log file, one line of JSON for each. -/
def writeLog (place : Place) (entries : List Log.Entry) : IO Unit := do
  let some path := Utf8.decode? (place.flatMap fun c => Path.slash :: c) | return
  let some directory := Utf8.decode? (place.dropLast.flatMap fun c => Path.slash :: c) | return
  IO.FS.createDirAll directory
  IO.FS.withFile path .append fun file =>
    entries.forM fun e => file.putStrLn e.toJson.compact

def usage : String :=
  "Usage: xml-client <command|language-configuration|run> [OPTIONS]"

end XmlSupport.Main

open XmlSupport

def main (args : List String) : IO UInt32 := do
  let args := args.map Utf8.encode
  match Cli.perform (← Main.surroundings args) args with
  | .ok outcome =>
    Main.writeBytes (← IO.getStdout) outcome.output
    Main.writeBytes (← IO.getStderr) outcome.errors
    if let some (place, entries) := outcome.log then Main.writeLog place entries
    return UInt32.ofNat outcome.status
  | .error .misuse =>
    (← IO.getStderr).putStrLn Main.usage
    return 2
  | .error _ =>
    (← IO.getStdout).putStrLn Main.usage
    return 0
