import XmlSupport.Notification.Message
import XmlSupport.Session.Interaction

/-!
# Notifications of the server

An actionable message is shown with the titles of its commands as choices, and
the chosen command is run. Of several commands with one title the first is
meant.
-/

namespace XmlSupport.Notification

open Session

def method : String := "xml/actionableNotification"

def decodeParams (params : Json) : Interaction Message :=
  match Message.decode params with
  | .ok message => .done message
  | .error mismatch => .failed (.invalidNotification method mismatch)

def noCommandTitled (selection : String) : Log.Entry :=
  Log.debug ("No command titled " ++ Text.quote selection)

def commandFailed (command : String) (error : Error) : Log.Entry :=
  Log.warn ("Command " ++ command ++ " failed: " ++ error.message)

/-- Runs a chosen command; its failure is logged and passed on. -/
def runCommand (c : Command) : Interaction Unit := do
  match ← Interaction.request (.executeCommand c.command (c.arguments.getD [])) with
  | .ok _ => return
  | .error e =>
    Interaction.log (commandFailed c.command e)
    .failed e

/-- Shows a message and runs the command that is chosen. -/
def present (channel : Channel) (m : Message) : Interaction Unit := do
  let commands := m.commands.getD []
  match ← Interaction.request (.showMessage channel m.message (commands.map (·.title))) with
  | none => return
  | some selection =>
    match commands.find? (·.title == selection) with
    | none => Interaction.log (noCommandTitled selection)
    | some c => runCommand c

def handleMessage (m : Message) : Interaction Unit :=
  match Channel.ofSeverity m.severity with
  | none => .done ()
  | some channel => present channel m

/-- Handles a notification; those with other methods are none of ours. -/
def handle (name : String) (params : Json) : Interaction Unit := do
  if name = method then handleMessage (← decodeParams params)
  else Interaction.log (Log.debug ("Ignoring notification " ++ name))

end XmlSupport.Notification
