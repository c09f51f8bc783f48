import XmlSupport.Launch.Child
import XmlSupport.Machine.Exit

/-!
# Servers as the relay sees them

A server turns the bytes it is given into the bytes it writes, and ends. How it
is found and started is up to the machine, which is asked only for what can be
handed to it.
-/

namespace XmlSupport.Relay

/-- What a server did: everything it wrote, and how it ended. -/
structure Execution where
  output : Bytes
  errors : Bytes
  exit : Machine.Exit
  deriving DecidableEq, Repr

/-- A started server, waiting for its input. It also depends on whether its
output is read to the end or only until something has been written. -/
abbrev Server : Type := Bytes → (isReadOn : Bool) → Execution

/-- How a machine starts servers or refuses to. -/
abbrev Starter : Type := Launch.Invocation → Except Machine.Fault Server

/-- Starts a server on a machine. -/
def Starter.spawn (start : Starter) (i : Launch.Invocation) : Except Machine.Fault Server :=
  match i.refusal? with
  | some fault => .error fault
  | none => start i

end XmlSupport.Relay
