import XmlSupport.Cli.Arguments
import XmlSupport.DataDirectory
import XmlSupport.Indent.Configuration
import XmlSupport.Log.Filter
import XmlSupport.Relay.Basic
import XmlSupport.Settings.Load

/-!
# Running the command line

Each command ends with a status and what it wrote. While the server runs the
standard output belongs to it, so entries go to the log file only.
-/

namespace XmlSupport.Cli

open Machine

/-- What the program finds when it is started. -/
structure Surroundings where
  files : Files
  current : Place
  block : Environment.Block
  input : Bytes
  /-- The home that the account of the user names, if it names one. -/
  accountHome : Option Bytes
  /-- The directory that holds the program itself, if the system tells. -/
  programDirectory : Except Fault Bytes
  starter : Files → Relay.Starter
  /-- The times at which entries are logged, as the log shows them. -/
  times : Nat → String := fun _ => "1970-01-01T00:00:00.000000Z"
  /-- What is said where the log file cannot be opened. The words are not the client's own. -/
  complaint : Fault → Bytes := fun _ => []

structure Outcome where
  status : Nat
  output : Bytes
  errors : Bytes
  /-- The log file and the entries in it, if it was opened. -/
  log : Option (Place × List Log.Entry)

/-- Variables that are looked up one by one. -/
def Surroundings.environment (s : Surroundings) : Environment := s.block.lookUps

/-- Why no server is launched. -/
inductive Obstacle where
  | reported (e : Error)
  /-- The system does not tell where the program lies. -/
  | unlocated (fault : Fault)

def Obstacle.message : Obstacle → String
  | .reported e => e.message
  | .unlocated fault =>
    "cannot locate the xml-client binary\n\nCaused by:\n    " ++ fault.message

namespace LaunchArguments

/-- The directory of the extension: the one that is named, else that of the program. -/
def extension (s : Surroundings) (args : LaunchArguments) : Except Obstacle Bytes :=
  match args.extensionPath with
  | some path => .ok path
  | none => s.programDirectory.mapError .unlocated

/-- The settings of the file that is named, if one is. -/
def loadSettings (s : Surroundings) (args : LaunchArguments) : Except Error Settings :=
  match args.settings with
  | some path => Settings.load s.files s.current path
  | none => .ok Settings.none

/-- The descriptor of the server to start. A server path on the command line
wins over one in the settings, which have to be in order all the same. -/
def descriptor (s : Surroundings) (args : LaunchArguments) :
    Except Obstacle Launch.Descriptor := do
  let extension ← args.extension s
  let settings ← (args.loadSettings s).mapError .reported
  return Launch.Descriptor.build extension (args.serverPath.or settings.serverPath)
    s.block.snapshot

end LaunchArguments

def line (text : String) : Bytes := Utf8.encode (text ++ "\n")

/-- A failed run says why on the error output. -/
def failed (obstacle : Obstacle) (errors : Bytes) (log : Option (Place × List Log.Entry)) :
    Outcome :=
  ⟨1, [], errors ++ line ("Error: " ++ obstacle.message), log⟩

def printed (v : Json) : Outcome := ⟨0, line v.pretty, [], none⟩

def command (s : Surroundings) (args : LaunchArguments) : Outcome :=
  match args.descriptor s with
  | .error obstacle => failed obstacle [] none
  | .ok d =>
    match d.document with
    | .ok v => printed v
    | .error e => failed (.reported e) [] none

/-- Entries of the program itself and of its relay are filtered by these targets. -/
def ownTarget : String := "xml_client"

def relayTarget : String := "xml_client::launcher::relay"

def loggingTo (path : Bytes) : Log.Entry := Log.info ("Logging to " ++ Text.quoteBytes path)

def finished (status : Nat) : Log.Entry :=
  Log.info ("xml-client relay finished with " ++ toString status)

/-- Entries with their targets, as far as the filter lets them through. -/
def admitted (f : Log.Filter) (entries : List (String × Log.Entry)) : List Log.Entry :=
  (entries.filter fun (target, e) => f.admits target e).map (·.2)

namespace Surroundings

def dataDirectory (s : Surroundings) : Bytes := DataDirectory.path s.accountHome s.environment

def logPath (s : Surroundings) : Bytes := DataDirectory.logPath s.accountHome s.environment

def filter (s : Surroundings) : Log.Filter :=
  Log.Filter.ofVariable (s.environment.text? "RUST_LOG")

/-- The line that shows an entry in the log file, at its place among all entries. -/
def logLine (s : Surroundings) (place : Nat) (target : String) (e : Log.Entry) : Bytes :=
  Utf8.encode (e.line (s.times place) target)

/-- Writes an entry to the log file, if the filter lets it through. -/
def record (s : Surroundings) (place : Nat) (target : String) (e : Log.Entry) (files : Files) :
    Files :=
  if s.filter.admits target e then
    (files.append s.current s.logPath (s.logLine place target e)).toOption.getD files
  else files

end Surroundings

/-- Starts the server and relays to it. The settings are found and the server is
started with the log file as it is by then. The entry about the end of the
output, whose time is open, comes last. -/
def launch (s : Surroundings) (args : LaunchArguments) (files : Files) :
    Outcome × List (String × Log.Entry) :=
  let first := loggingTo s.logPath
  let files := s.record 0 ownTarget first files
  match args.descriptor { s with files := files } with
  | .error obstacle => (failed obstacle [] none, [(ownTarget, first)])
  | .ok d =>
    let files := s.record 1 relayTarget (Relay.starting d) files
    let report := Relay.relay (s.starter files) d s.input .accepting
    let early := report.log.map fun e => (relayTarget, e)
    let late := report.transfer.toList.map fun e => (relayTarget, e)
    match report.result with
    | .error e => (failed (.reported e) report.errors none, (ownTarget, first) :: early ++ late)
    | .ok status =>
      (⟨status, report.output, report.errors, none⟩,
        (ownTarget, first) :: early ++ (ownTarget, finished status) :: late)

def dataDirectoryFailed (fault : Fault) : Bytes :=
  line ("Failed to create data directory: " ++ fault.message)

/-- The status of a program that comes down without an answer. -/
def crashStatus : Nat := 101

/-- The files with a log file that is open, or how the program ends without one. -/
def openLog (s : Surroundings) : Except Outcome Files :=
  match s.files.ensureDirectory s.current s.dataDirectory with
  | .error fault => .error (failed (.reported (.io fault)) (dataDirectoryFailed fault) none)
  | .ok files =>
    match files.append s.current s.logPath [] with
    | .error fault => .error ⟨crashStatus, [], s.complaint fault, none⟩
    | .ok files => .ok files

def run (s : Surroundings) (args : LaunchArguments) : Outcome :=
  match openLog s with
  | .error outcome => outcome
  | .ok files =>
    let (outcome, entries) := launch s args files
    match files.resolve s.current s.logPath with
    | .ok place => { outcome with log := some (place, admitted s.filter entries) }
    | .error _ => outcome

def version : String := "xml-client 0.1.0"

/-- What the program does with its arguments. -/
def perform (s : Surroundings) (args : List Bytes) : Except Answer Outcome :=
  match Arguments.parse args with
  | .error .version => .ok ⟨0, line version, [], none⟩
  | .error answer => .error answer
  | .ok (.command args) => .ok (command s args)
  | .ok .languageConfiguration => .ok (printed Indent.Configuration.standard.toJson)
  | .ok (.run args) => .ok (run s args)

end XmlSupport.Cli
