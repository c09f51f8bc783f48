import XmlSupport.Log.Entry
import XmlSupport.Relay.Server

/-!
# The relay

The relay starts the server, hands it the client's input and writes what the
server writes to the client's output. It ends when the server has ended and
everything in its pipe has been written, with the server's own status. It looks
into none of the bytes.
-/

namespace XmlSupport.Relay

open Machine

/-- How the client's output takes what is written to it. -/
inductive Sink where
  | accepting
  /-- Every write fails. -/
  | closed
  /-- Whoever writes comes down with the first write. -/
  | crashing
  deriving DecidableEq, Repr

structure Report where
  result : Except Error Nat
  /-- What reached the client's output. -/
  output : Bytes
  /-- What the server wrote to the error output, which it shares with the client. -/
  errors : Bytes
  log : List Log.Entry
  /-- The entry about the end of the output. It is written at some time while
  the relay ends, so its place among the others is open. -/
  transfer : Option Log.Entry

def starting (d : Launch.Descriptor) : Log.Entry :=
  ⟨.info, "Starting language server",
    [("command", d.command), ("classpath", Log.quoteOption d.classpath)]⟩

def startFailed (d : Launch.Descriptor) (fault : Fault) : Log.Entry :=
  Log.warn ("Failed to start " ++ d.command ++ ": " ++ fault.message)

def ended (exit : Exit) : Log.Entry :=
  Log.info ("Language server exited with " ++ exit.describe)

def outputClosed (count : Nat) : Log.Entry :=
  Log.debug ("server -> client closed after " ++ toString count ++ " bytes")

def outputFailed : Log.Entry := Log.warn "server -> client failed: broken pipe"

def outputCrashed : Log.Entry := Log.warn "server -> client relay task failed: task panicked"

/-- Whether the relay goes on reading after the first write. -/
def Sink.readsOn (sink : Sink) : Bool := sink = .accepting

/-- What an output lets through, and how that is logged. -/
def deliver (sink : Sink) (bytes : Bytes) : Bytes × Log.Entry :=
  match sink, bytes with
  | .accepting, bytes => (bytes, outputClosed bytes.length)
  | _, [] => ([], outputClosed 0)
  | .closed, _ => ([], outputFailed)
  | .crashing, _ => ([], outputCrashed)

def relay (start : Starter) (d : Launch.Descriptor) (input : Bytes) (sink : Sink) : Report :=
  match start.spawn d.invocation with
  | .error fault => ⟨.error (.io fault), [], [], [starting d, startFailed d fault], none⟩
  | .ok server =>
    let e := server input sink.readsOn
    let (output, entry) := deliver sink e.output
    ⟨.ok e.exit.code, output, e.errors, [starting d, ended e.exit], some entry⟩

end XmlSupport.Relay
