import XmlSupport.SortedMap
import XmlSupport.Shell.Command
import XmlSupport.Shell.World

/-!
# The state of a shell

A shell has variables, functions, open descriptors and a time of its own, and
shares the world with all other processes. A subshell works on a copy of what
is the shell's own.
-/

namespace XmlSupport.Shell

open Machine

structure Variable where
  /-- A variable can be exported before it has a value. -/
  value : Option Text
  isExported : Bool
  /-- Whether it may not be assigned again. -/
  isFixed : Bool
  deriving DecidableEq, Repr

/-- How a command leaves the one after it. -/
inductive Flow where
  | next
  | quit
  | killed (signal : Nat)
  | leaveLoop (depth : Nat)
  | nextRound (depth : Nat)
  /-- Leaves a function or a script. -/
  | back
  deriving DecidableEq, Repr

/-- A background job. It has been followed to its end, and can be followed
again in a world where it gets a signal. -/
structure Job where
  process : Nat
  parent : Nat
  ended : Nat
  exit : Exit
  /-- How many signals had been sent when it was followed. -/
  known : Nat
  follow : World → World × Nat × Exit

/-- What is a shell's own. -/
structure Context where
  /-- What time it is for this process. -/
  clock : Nat
  current : Place
  process : Nat
  /-- The process of the shell around all subshells. -/
  root : Nat
  /-- The background jobs that the process belongs to. -/
  owners : List Nat
  descriptors : List (Nat × Nat)
  bindings : SortedMap Text Variable
  functions : List (Text × Command)
  /-- What the local names of the running function mean outside of it. -/
  locals : Option (List (Text × Option Variable))
  name : Text
  args : List Text
  line : Nat
  status : Nat
  /-- The status of the last substitution of a command. -/
  substituted : Nat
  lastJob : Option Nat
  options : List Char
  /-- Actions on signals, zero standing for the end of the shell. -/
  traps : List (Nat × Text)
  /-- The signals that have been attended to, by their number among all. -/
  attended : List Nat
  jobs : List Job
  loops : Nat
  /-- How far into its argument the reading of options has come. -/
  optionOffset : Nat
  /-- The status with which an action on a signal began. -/
  saved : Option Nat
  flow : Flow

structure State extends World, Context

namespace State

/-- How long a shell needs for a command of its own. -/
def commandTime : Nat := 4

/-- How long it takes until a new process runs, and until its program is loaded. -/
def forkTime : Nat := 300

def loadTime : Nat := 700

def isRunning (st : State) : Bool := st.flow = .next

def hasOption (st : State) (letter : Char) : Bool := st.options.contains letter

def opening? (st : State) (descriptor : Nat) : Option Nat := st.descriptors.lookup descriptor

/-- Lets time pass. -/
def pass (st : State) (time : Nat) : State := { st with clock := st.clock + time }

def waitUntil (st : State) (time : Nat) : State := { st with clock := max st.clock time }

def kill (st : State) (process signal : Nat) : State :=
  { st with toWorld := st.send ⟨st.clock, st.owners, process, signal⟩ }

def pipeSignal : Nat := 13

/-- Writes to a descriptor. A pipe that nobody reads ends the process, unless
it minds the signal. -/
def write (st : State) (descriptor : Nat) (text : Text) : State × Option WriteFault :=
  if text.isEmpty then (st, none)
  else
    match st.opening? descriptor with
    | none => (st, some .notOpen)
    | some opening =>
      match st.toWorld.write opening ⟨st.clock, st.owners, text⟩ with
      | (world, some .brokenPipe) =>
        let st := { st with toWorld := world }
        match st.traps.lookup pipeSignal with
        | some [] => (st, some .brokenPipe)
        | some _ => (st.kill st.process pipeSignal, some .brokenPipe)
        | none => ({ st with flow := .killed pipeSignal }, some .brokenPipe)
      | (world, fault) => ({ st with toWorld := world }, fault)

/-- A message of the shell about the line it is at. -/
def complain (st : State) (message : Text) : State :=
  (st.write 2 (st.name ++ say (": " ++ toString st.line ++ ": ") ++ message ++ ['\n'])).1

/-- A fault behind which the shell cannot go on. -/
def fail (st : State) (message : Text) : State :=
  { st.complain message with flow := .quit, status := 2 }

def get? (st : State) (name : Text) : Option Text :=
  match st.bindings.find? name with
  | some v => v.value
  | none => none

def isFixed (st : State) (name : Text) : Bool :=
  match st.bindings.find? name with
  | some v => v.isFixed
  | none => false

def bind (st : State) (name : Text) (v : Variable) : State :=
  { st with bindings := st.bindings.insert name v }

def variableOf (st : State) (name : Text) : Variable :=
  (st.bindings.find? name).getD ⟨none, false, false⟩

/-- Assigns a variable that may be assigned. -/
def set (st : State) (name value : Text) : State :=
  let v := st.variableOf name
  st.bind name { v with value := some value, isExported := v.isExported || st.hasOption 'a' }

def assign (st : State) (name value : Text) : State :=
  if st.isFixed name then st.fail (name ++ say ": is read only") else st.set name value

def publish (st : State) (name : Text) : State :=
  st.bind name { st.variableOf name with isExported := true }

def unset (st : State) (name : Text) : State :=
  { st with bindings := .ofList (st.bindings.entries.filter fun e => e.1 != name) }

/-- Gives a name the meaning it had before. -/
def restore (st : State) (name : Text) (v : Option Variable) : State :=
  match v with
  | some v => st.bind name v
  | none => st.unset name

/-- What a program started by the shell finds in its environment. -/
def environment (st : State) : List (Text × Text) :=
  st.bindings.entries.filterMap fun (k, v) =>
    if v.isExported then v.value.map fun text => (k, text) else none

/-- The characters at which expansions are split into fields. -/
def separators (st : State) : Text := (st.get? "IFS".toList).getD [' ', '\t', '\n']

/-- All arguments in one text. -/
def joinedArguments (st : State) : Text :=
  match st.get? "IFS".toList with
  | none => joinWords st.args
  | some [] => st.args.flatten
  | some (c :: _) => [c].intercalate st.args

/-- The value of a parameter that is one text. -/
def parameter? (st : State) (name : Text) : Option Text :=
  match name with
  | ['#'] => some (decimal st.args.length)
  | ['?'] => some (decimal st.status)
  | ['$'] => some (decimal st.root)
  | ['!'] => st.lastJob.map decimal
  | ['-'] => some st.options
  | ['@'] => if st.args.isEmpty then none else some st.joinedArguments
  | ['*'] => if st.args.isEmpty then none else some st.joinedArguments
  | c :: _ =>
    if c.isDigit then
      let n := ((String.ofList name).toNat?).getD 0
      if n = 0 then some st.name else st.args[n - 1]?
    else if name = "LINENO".toList then some (decimal st.line)
    else st.get? name
  | [] => none

/-- Whether the shell does something of its own about signals. -/
def hasTraps (st : State) : Bool := st.traps.any fun t => !t.2.isEmpty

/-- A subshell: signals have their usual effect in it unless they are ignored. -/
def fork (st : State) : State :=
  { st with
    nextProcess := st.nextProcess + 1
    process := st.nextProcess
    clock := st.clock + forkTime
    traps := st.traps.filter fun t => t.2.isEmpty
    attended := []
    loops := 0 }

/-- How a process that has come to its end ended. -/
def exit (st : State) : Exit :=
  match st.flow with
  | .killed signal => .signalled signal
  | _ => .exited (UInt8.ofNat st.status)

/-- The world that a process leaves at its end. -/
def leave (st : State) : World := st.toWorld.close (st.descriptors.map (·.2)) st.clock

/-- What is said about a process that a signal has ended. -/
def signalText (signal : Nat) : Option String :=
  match signal with
  | 1 => some "Hangup"
  | 3 => some "Quit"
  | 4 => some "Illegal instruction"
  | 5 => some "Trace/breakpoint trap"
  | 6 => some "Aborted"
  | 7 => some "Bus error"
  | 8 => some "Floating point exception"
  | 9 => some "Killed"
  | 10 => some "User defined signal 1"
  | 11 => some "Segmentation fault"
  | 12 => some "User defined signal 2"
  | 14 => some "Alarm clock"
  | 15 => some "Terminated"
  | 16 => some "Stack fault"
  | 24 => some "CPU time limit exceeded"
  | 25 => some "File size limit exceeded"
  | 26 => some "Virtual timer expired"
  | 27 => some "Profiling timer expired"
  | 29 => some "I/O possible"
  | 30 => some "Power failure"
  | 31 => some "Bad system call"
  | n => if 34 ≤ n then some ("Real-time signal " ++ toString (n - 34)) else none

/-- Goes on behind a process that the shell has waited for. -/
def resume (outer inner : State) : State :=
  let st := { outer with
    toWorld := inner.leave, clock := max outer.clock inner.clock, status := inner.exit.reported }
  match inner.exit with
  | .signalled signal =>
    match signalText signal with
    | some text => (st.write 2 (say (text ++ "\n"))).1
    | none => st
  | _ => st

/-- The first signal to the process that it has not attended to, sent until a time. -/
def pending? (st : State) (time : Nat) : Option (Nat × Delivery) :=
  st.deliveries.zipIdx.foldl (fun found (d, i) =>
    if d.process = st.process && d.time ≤ time && !st.attended.contains i then
      match found with
      | some (j, e) => if d.time < e.time then some (i, d) else some (j, e)
      | none => some (i, d)
    else found) none

/-- Follows the jobs again that got signals before their end. -/
def settle (st : State) : State :=
  st.jobs.foldl (fun st job =>
    let late := (st.deliveries.drop job.known).filter fun d =>
      job.parent = st.process && d.process = job.process && d.time < job.ended
    match late with
    | [] => st
    | d :: _ =>
      let time := late.foldl (fun t e => min t e.time) d.time
      let known := st.deliveries.length
      let (world, ended, exit) := job.follow (st.toWorld.without job.process time)
      let world := world.withoutRepeats job.process time known
      let job := { job with ended := ended, exit := exit, known := known }
      { st with
        toWorld := world
        jobs := st.jobs.map fun j => if j.process = job.process then job else j }) st

end State
end XmlSupport.Shell
