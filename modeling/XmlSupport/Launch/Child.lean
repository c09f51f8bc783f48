import XmlSupport.Launch.Descriptor

/-!
# Children as they are handed to the system

The system takes byte strings that end at their first zero byte, so one that holds
a zero byte cannot be handed to it. A fixed text is kept in its place, and the
start of such a child is refused before the system is asked.
-/

namespace XmlSupport.Launch

/-- A process that is ready to be started. -/
structure Child where
  program : Bytes
  args : List Bytes
  /-- The whole environment: nothing else is inherited. -/
  env : List (Bytes × Bytes)
  cwd : Option Bytes
  killOnDrop : Bool
  deriving DecidableEq, Repr

/-- What stands for a byte string with a zero byte. -/
def placeholder : String := "<string-with-nul>"

/-- What is kept of a byte string. -/
def kept (bytes : Bytes) : Bytes :=
  if bytes.contains 0 then Utf8.encode placeholder else bytes

/-- The child of an invocation. Its environment is put together only when it is started. -/
def Invocation.child (i : Invocation) : Child where
  program := kept (Utf8.encode i.program)
  args := i.args.map fun arg => kept (Utf8.encode arg)
  env := i.env
  cwd := i.cwd.map kept
  killOnDrop := i.killOnDrop

/-- Every byte string of an invocation that the system is to be handed. -/
def Invocation.parts (i : Invocation) : List Bytes :=
  Utf8.encode i.program :: i.args.map Utf8.encode ++ i.env.flatMap (fun (k, v) => [k, v]) ++
    i.cwd.toList

/-- Why an invocation is refused without asking the system, if it is. -/
def Invocation.refusal? (i : Invocation) : Option Machine.Fault :=
  if i.parts.any fun part => part.contains 0 then some .zeroInCommand else none

end XmlSupport.Launch
