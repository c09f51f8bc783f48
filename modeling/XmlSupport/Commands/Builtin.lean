import XmlSupport.Commands.Arguments
import XmlSupport.Commands.Registry
import XmlSupport.Uri.Reader

/-!
# The client's own commands

One shows all references to what stands at a position, the other opens the
user's settings. Both end in a command of the editor.
-/

namespace XmlSupport.Commands

open Session

def showReferencesId : String := "xml.show.references"

def openSettingsId : String := "xml.open.settings"

/-- The editor's command that lists locations. -/
def editorShowReferences : String := "editor.action.showReferences"

/-- The editor's command that opens the settings. -/
def editorOpenSettings : String := "workbench.action.openSettings"

def refuse {α : Type} (id : String) : Except ArgumentFault α → Interaction α
  | .ok a => .done a
  | .error fault => .failed (.invalidArguments id fault.message)

/-- The URI that a text names. -/
def parseUri (text : String) : Interaction Uri :=
  match Uri.parse text with
  | .ok uri => .done uri
  | .error fault => .failed (.invalidUri text fault.message)

def referencesFound (count : Nat) (uri : Uri) (position : Document.Position) : Log.Entry :=
  Log.info (toString count ++ " references for " ++ uri.text ++ " at " ++ position.describe)

/-- Asks the server for the references to a place and has the editor list them. -/
def showReferences (uri : String) (position : Document.Position) : Interaction Unit := do
  let uri ← parseUri uri
  let document ← Interaction.ofExcept (← Interaction.request (.openTextDocument uri))
  let reply ← Interaction.request (.references ⟨document, position, true⟩)
  let locations := (← Interaction.ofReply reply).getD []
  Interaction.log (referencesFound locations.length uri position)
  let arguments :=
    [.string uri.text, position.encode, .array (locations.map Document.Location.encode)]
  let _ ← Interaction.ofExcept
    (← Interaction.request (.executeCommand editorShowReferences arguments))

/-- Has the editor open its settings, at one of them if it is given. -/
def openSettings (id : Option String) : Interaction (Option Json) := do
  let arguments := (id.map Json.string).toList
  Interaction.ofExcept (← Interaction.request (.executeCommand editorOpenSettings arguments))

def showReferencesHandler : Handler := fun arguments => do
  let (uri, position) ← refuse showReferencesId (placeArguments arguments)
  showReferences uri position
  return none

def openSettingsHandler : Handler := fun arguments => do
  openSettings (← refuse openSettingsId (settingArgument arguments))

/-- Registers the client's own commands. -/
def registerBuiltin (r : Registry) : Interaction Registry := do
  let r ← r.register showReferencesId showReferencesHandler
  r.register openSettingsId openSettingsHandler

end XmlSupport.Commands
