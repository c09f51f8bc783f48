import XmlSupport.Commands.Operation
import XmlSupport.Notification.Bridge

/-!
# The activated extension

Activation installs the language configuration, starts the server and registers
the client's commands. The configuration stays even if the server does not
start.
-/

namespace XmlSupport.Session

open Commands

structure Extension where
  commands : Registry

namespace Extension

/-- Gives the languages the standard configuration, one after the other. -/
def installLanguages : List String → Interaction Unit
  | [] => return
  | language :: rest => do
    let _ ← Interaction.request (.setLanguageConfiguration language .standard)
    installLanguages rest

def starting (classpath : Option String) : Log.Entry :=
  Log.info ("Starting XML language client with " ++ Log.quoteOption classpath)

def ready : Log.Entry := Log.info "XML language client ready"

/-- Activates the extension that is installed at a path. -/
def activate (path : Bytes) (env : Machine.Environment) : Interaction Extension := do
  installLanguages Language.ids
  let value ← Interaction.request (.configuration Settings.serverPathKey)
  let server := Launch.Descriptor.ofSettings path (Settings.ofHostValue value) env
  Interaction.log (starting server.classpath)
  Interaction.ofReply (← Interaction.request (.start server .standard))
  Interaction.log ready
  return ⟨← registerBuiltin .empty⟩

/-- What can happen to an activated extension. -/
inductive Step where
  | call (call : Call)
  | notify (method : String) (params : Json)

def perform (e : Extension) : Step → Interaction Answer
  | .call c => c.perform e.commands
  | .notify method params => do
    Notification.handle method params
    return .value none

/-- Steps one after the other, each with the replies that it would get. -/
def performAll (e : Extension) (steps : List (Step × Answers)) : List (Outcome Answer) :=
  steps.map fun (step, answers) => (e.perform step).run answers

end Extension

/-- What others see of a whole session: its activation, and its steps if that succeeds. -/
def transcript (path : Bytes) (env : Machine.Environment) (answers : Answers)
    (steps : List (Extension.Step × Answers)) : Outcome Extension × List (Outcome Answer) :=
  let activation := (Extension.activate path env).run answers
  match activation.result with
  | .ok e => (activation, e.performAll steps)
  | .error _ => (activation, [])

end XmlSupport.Session
