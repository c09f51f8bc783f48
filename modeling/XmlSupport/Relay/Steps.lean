import XmlSupport.Relay.Basic

/-!
# Relaying step by step

The relay, its two pumps and the server take their steps in any order. A pump
carries bytes in chunks of any size from one end of a conduit to the other. The
server reads, writes and ends whenever it likes; what it has started may hold
its pipes open after its end. The pumps run on when the relay has returned,
except that the one to the server is told to stop at the server's end. Neither
pump can lose, repeat or reorder bytes: all that a conduit has taken in is
passed on, held or still unread.
-/

namespace XmlSupport.Relay

open Machine

/-- How the carrying of bytes stands. -/
inductive Pump where
  | idle
  | running
  /-- The source has ended, and everything from it has been passed on. -/
  | finished
  /-- A read or a write failed. -/
  | failed
  | crashed
  | aborted
  deriving DecidableEq, Repr

/-- One direction of the relay. -/
structure Conduit where
  pump : Pump
  unread : Bytes
  /-- Read by the pump and not yet written. -/
  held : Bytes
  passed : Bytes
  deriving DecidableEq, Repr

namespace Conduit

/-- Everything that has come in, in order. -/
def content (c : Conduit) : Bytes := c.passed ++ c.held ++ c.unread

/-- What a pump may do at any time while it runs. -/
inductive Move : Conduit → Conduit → Prop where
  | read (unread held chunk passed : Bytes) :
    Move ⟨.running, chunk ++ unread, held, passed⟩ ⟨.running, unread, held ++ chunk, passed⟩
  | write (unread held chunk passed : Bytes) :
    Move ⟨.running, unread, chunk ++ held, passed⟩ ⟨.running, unread, held, passed ++ chunk⟩
  | fail (unread held passed : Bytes) :
    Move ⟨.running, unread, held, passed⟩ ⟨.failed, unread, held, passed⟩
  | crash (unread held passed : Bytes) :
    Move ⟨.running, unread, held, passed⟩ ⟨.crashed, unread, held, passed⟩

theorem Move.content_eq {c c' : Conduit} (h : Move c c') : c'.content = c.content := by
  cases h <;> simp [content]

theorem Move.isPrefix_passed {c c' : Conduit} (h : Move c c') : c.passed <+: c'.passed := by
  cases h <;> simp

/-- Nothing is left to carry. -/
def isDrained (c : Conduit) : Prop := c.pump = .running ∧ c.unread = [] ∧ c.held = []

def finish (c : Conduit) : Conduit := { c with pump := .finished }

/-- Stops a pump that still runs, wherever it is. -/
def abort (c : Conduit) : Conduit := if c.pump = .running then { c with pump := .aborted } else c

def start (c : Conduit) : Conduit := { c with pump := .running }

end Conduit

/-- What the relay itself is doing. -/
inductive Stage where
  | starting
  /-- The server could not be started. -/
  | refused (fault : Fault)
  /-- Waiting for the server's end. -/
  | waiting
  /-- Waiting for the end of the output. -/
  | closing (exit : Exit)
  | returned (result : Except Fault Nat)

namespace Stage

/-- Whether the server has been started. -/
def hasServer : Stage → Bool
  | .starting | .refused _ => false
  | _ => true

/-- Whether the relay knows of the server's end. -/
def hasNoticed : Stage → Bool
  | .closing _ | .returned (.ok _) => true
  | _ => false

/-- What the relay has returned, once it has. -/
def result? : Stage → Option (Except Error Nat)
  | .refused fault | .returned (.error fault) => some (.error (.io fault))
  | .returned (.ok code) => some (.ok code)
  | _ => none

end Stage

structure State where
  stage : Stage
  /-- From the client to the server. -/
  input : Conduit
  /-- From the server to the client. -/
  output : Conduit
  /-- What the server has read. -/
  received : Bytes
  /-- What has been written into the server's output pipe. -/
  written : Bytes
  /-- Whether anybody can still write into that pipe. -/
  isOpen : Bool
  exit : Option Exit

namespace State

def initial (input : Bytes) : State where
  stage := .starting
  input := ⟨.idle, input, [], []⟩
  output := ⟨.idle, [], [], []⟩
  received := []
  written := []
  isOpen := true
  exit := none

inductive Step : State → State → Prop where
  | refuse (s : State) (fault : Fault) (h : s.stage = .starting) :
    Step s { s with stage := .refused fault }
  | start (s : State) (h : s.stage = .starting) :
    Step s { s with stage := .waiting, input := s.input.start, output := s.output.start }
  | moveInput (s : State) (c : Conduit) (h : s.input.Move c) : Step s { s with input := c }
  | moveOutput (s : State) (c : Conduit) (h : s.output.Move c) : Step s { s with output := c }
  | finishInput (s : State) (h : s.input.isDrained) : Step s { s with input := s.input.finish }
  | finishOutput (s : State) (h : s.output.isDrained) (closed : s.isOpen = false) :
    Step s { s with output := s.output.finish }
  /-- The server reads some of what it has been handed. -/
  | receive (s : State) (chunk rest : Bytes) (running : s.stage.hasServer = true)
      (h : s.input.passed = s.received ++ chunk ++ rest) :
    Step s { s with received := s.received ++ chunk }
  | produce (s : State) (chunk : Bytes) (running : s.stage.hasServer = true)
      (h : s.isOpen = true) :
    Step s { s with
      written := s.written ++ chunk
      output := { s.output with unread := s.output.unread ++ chunk } }
  | close (s : State) (running : s.stage.hasServer = true) : Step s { s with isOpen := false }
  | terminate (s : State) (exit : Exit) (running : s.stage.hasServer = true) (h : s.exit = none) :
    Step s { s with exit := some exit }
  /-- The relay cannot wait for the server's end. -/
  | lose (s : State) (fault : Fault) (waiting : s.stage = .waiting) :
    Step s { s with stage := .returned (.error fault) }
  /-- The relay notices the server's end. -/
  | notice (s : State) (exit : Exit) (waiting : s.stage = .waiting) (h : s.exit = some exit) :
    Step s { s with stage := .closing exit }
  /-- Nobody is left to take input. A pump that is at work stops some time after it is told. -/
  | abortInput (s : State) (h : s.stage.hasNoticed = true) :
    Step s { s with input := s.input.abort }
  /-- The output is over, for whatever reason. -/
  | conclude (s : State) (exit : Exit) (closing : s.stage = .closing exit)
      (h : s.output.pump ≠ .running) :
    Step s { s with stage := .returned (.ok exit.code) }

/-- The states that a relay of some input can come to. -/
inductive Reachable (input : Bytes) : State → Prop where
  | initial : Reachable input (initial input)
  | step {s t : State} (h : Reachable input s) (step : Step s t) : Reachable input t

end State
end XmlSupport.Relay
