import XmlSupport.Relay.Server
import XmlSupport.Shell.Run

/-!
# Starting programs

Starting changes to the directory, finds the program and checks that it can be
run; only then is there a process. What comes later is the process's own.
-/

namespace XmlSupport.Shell.Start

open Machine

/-- How deep a script may nest and how often its loops may go round. -/
def fuel : Nat := 100000

/-- The directory in which the process begins. -/
def directory (files : Files) (current : Place) : Option Bytes → Except Fault Place
  | none => .ok current
  | some path => do
    let place ← files.resolve current path
    match files.node? place with
    | some (.directory _) => return place
    | _ => throw .notADirectory

/-- A script needs the program that its first line names. A file that is
neither script nor program is run by the shell, but only if it was looked for. -/
def check (files : Files) (current : Place) (name : Bytes) (found : Found) : Except Fault Unit :=
  match Starter.ofFound Layout.compiledMark found with
  | .compiled _ => .ok ()
  | .script interpreter _ => (Lookup.executable files current interpreter).map fun _ => ()
  | .plain => if name.contains Path.slash then .error .badFormat else .ok ()

/-- The number of the first process. -/
def firstProcess : Nat := 4242

/-- The input, the output and the error output are open. -/
def openings : List Opening :=
  [⟨.client, true, false⟩, ⟨.channel World.outputIndex, false, true⟩,
   ⟨.channel World.errorsIndex, false, true⟩]

def world (files : Files) (input : Bytes) (isReadOn : Bool) : World where
  files := files
  openings := openings
  channels := [.new (if isReadOn then .patient else .startled), .new .patient]
  input := ofBytes input
  deliveries := []
  nextProcess := firstProcess + 1

def context (current : Place) (i : Launch.Invocation) : Context where
  clock := 0
  current := current
  process := firstProcess
  root := firstProcess
  owners := []
  descriptors := [(0, 0), (1, 1), (2, 2)]
  bindings := .ofList (i.env.map fun (k, v) => (ofBytes k, ⟨some (ofBytes v), true, false⟩))
  functions := []
  locals := none
  name := say i.program
  args := []
  line := 1
  status := 0
  substituted := 0
  lastJob := none
  options := []
  traps := []
  attended := []
  jobs := []
  loops := 0
  optionOffset := 0
  saved := none
  flow := .next

def execute (found : Found) (st : State) (i : Launch.Invocation) : Relay.Execution :=
  let st := (startFound fuel found (say i.program) (i.args.map say) st).strike fuel
  ⟨toBytes (st.channelText World.outputIndex), toBytes (st.channelText World.errorsIndex), st.exit⟩

/-- Starts programs that are found from a directory of a file system. -/
def starter (files : Files) (current : Place) : Relay.Starter := fun i => do
  let current ← directory files current i.cwd
  let searchPath := i.env.lookup (Utf8.encode "PATH")
  let name := Utf8.encode i.program
  let found ← Lookup.find files current searchPath name
  check files current name found
  return fun input isReadOn => execute found ⟨world files input isReadOn, context current i⟩ i

end XmlSupport.Shell.Start
