import XmlSupport.Proofs.Commands.Builtin
import XmlSupport.Proofs.Session.Ensures
import XmlSupport.Session.Extension

/-!
# What one step asks for

A step of an activated extension makes one of seven groups of requests. The
group says how far the step got, so the proofs follow the replies: each refusal
ends the group where it stands.
-/

namespace XmlSupport.Session

open Commands

/-- The requests that one step makes of editor and server. -/
inductive IsGroup : List Request → Prop
  | nothing : IsGroup []
  | opened (uri : Uri) : IsGroup [.openTextDocument uri]
  | asked (uri : Uri) (query : Document.ReferenceQuery) :
      IsGroup [.openTextDocument uri, .references query]
  | listed (uri : Uri) (query : Document.ReferenceQuery) (arguments : List Json) :
      IsGroup [.openTextDocument uri, .references query,
        .executeCommand "editor.action.showReferences" arguments]
  | settings (arguments : List Json) :
      IsGroup [.executeCommand "workbench.action.openSettings" arguments]
  | shown (channel : Notification.Channel) (message : String) (choices : List String) :
      IsGroup [.showMessage channel message choices]
  | chosen (channel : Notification.Channel) (message : String) (choices : List String)
      (command : String) (arguments : List Json) :
      IsGroup [.showMessage channel message choices, .executeCommand command arguments]

/-- Whatever is replied, the requests are one group. -/
def Interaction.AsksGroup {α : Type} (i : Interaction α) : Prop :=
  i.Ensures fun requests _ => IsGroup requests

open Interaction

/-- What only renames the value asks for the same. -/
theorem Interaction.AsksGroup.bind_done {α β : Type} {i : Interaction α} (h : i.AsksGroup)
    (f : α → β) : (i >>= fun a => .done (f a)).AsksGroup := by
  refine ensures_bind.2 (h.mono ?_)
  intro requests result hgroup
  cases result with
  | error e => exact hgroup
  | ok a => simpa only [Ensures, List.append_nil] using hgroup

theorem asksGroup_showReferences (uri : String) (position : Document.Position) :
    (showReferences uri position).AsksGroup := by
  unfold showReferences parseUri
  cases Uri.parse uri with
  | error fault => exact .nothing
  | ok u =>
    intro opened
    cases opened with
    | error e => exact .opened u
    | ok document =>
      intro found
      cases found with
      | error failure => exact .asked u _
      | ok locations =>
        intro listed
        cases listed with
        | error e => exact .listed u _ _
        | ok value => exact .listed u _ _

theorem asksGroup_openSettings (id : Option String) : (openSettings id).AsksGroup := by
  intro reply
  cases reply with
  | error e => exact .settings _
  | ok value => exact .settings _

theorem asksGroup_showReferencesHandler (arguments : List Json) :
    (showReferencesHandler arguments).AsksGroup := by
  unfold showReferencesHandler
  cases placeArguments arguments with
  | error fault => exact .nothing
  | ok place => exact (asksGroup_showReferences place.1 place.2).bind_done fun _ => none

theorem asksGroup_openSettingsHandler (arguments : List Json) :
    (openSettingsHandler arguments).AsksGroup := by
  unfold openSettingsHandler
  cases settingArgument arguments with
  | error fault => exact .nothing
  | ok id => exact asksGroup_openSettings id

theorem asksGroup_execute_builtin (id : String) (arguments : List Json) :
    (Registry.builtin.execute id arguments).AsksGroup := by
  rw [Registry.execute_builtin]
  split
  · exact asksGroup_openSettingsHandler arguments
  · split
    · exact asksGroup_showReferencesHandler arguments
    · exact .nothing

theorem asksGroup_call (c : Call) : (c.perform .builtin).AsksGroup := by
  cases c with
  | ids => exact .nothing
  | contains id => exact .nothing
  | execute id arguments => exact (asksGroup_execute_builtin id arguments).bind_done Answer.value
  | showReferences uri position =>
    exact (asksGroup_showReferences uri position).bind_done fun _ => Answer.value none
  | openSettings id => exact (asksGroup_openSettings id).bind_done Answer.value

/-- A message is shown, and at most the one chosen command runs. -/
theorem asksGroup_present (channel : Notification.Channel) (m : Notification.Message) :
    (Notification.present channel m).AsksGroup := by
  intro selection
  cases selection with
  | none => exact .shown channel _ _
  | some title =>
    cases h : (m.commands.getD []).find? (·.title == title) with
    | none =>
      simp only [Interaction.bind, h]
      exact .shown channel _ _
    | some c =>
      simp only [Interaction.bind, h]
      intro run
      cases run with
      | error e => exact .chosen channel _ _ _ _
      | ok value => exact .chosen channel _ _ _ _

theorem asksGroup_handleMessage (m : Notification.Message) :
    (Notification.handleMessage m).AsksGroup := by
  unfold Notification.handleMessage
  cases Notification.Channel.ofSeverity m.severity with
  | none => exact .nothing
  | some channel => exact asksGroup_present channel m

theorem asksGroup_handle (name : String) (params : Json) :
    (Notification.handle name params).AsksGroup := by
  unfold Notification.handle Notification.decodeParams
  split
  · cases Notification.Message.decode params with
    | error mismatch => exact .nothing
    | ok message => exact asksGroup_handleMessage message
  · exact .nothing

theorem asksGroup_perform (step : Extension.Step) :
    (Extension.perform ⟨.builtin⟩ step).AsksGroup := by
  cases step with
  | call c => exact asksGroup_call c
  | notify method params =>
    exact (asksGroup_handle method params).bind_done fun _ => Answer.value none

end XmlSupport.Session
