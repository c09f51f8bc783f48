import XmlSupport.Client.Options
import XmlSupport.Document.Location
import XmlSupport.Indent.Configuration
import XmlSupport.Launch.Descriptor
import XmlSupport.Notification.Channel

/-!
# What the client asks of others

The editor and the connection to the server are known only by the requests
made of them and the replies they give. Each kind of request has its own kind
of reply.
-/

namespace XmlSupport.Session

inductive Request where
  | setLanguageConfiguration (language : String) (configuration : Indent.Configuration)
  /-- The value of a setting, if it is set. -/
  | configuration (key : String)
  /-- Starts the server and completes once both sides have agreed on a connection. -/
  | start (server : Launch.Descriptor) (options : Client.Options)
  /-- Loads a document; the editor may know it under another URI. -/
  | openTextDocument (uri : Uri)
  /-- Shows a message with choices and waits for the chosen one, if any is. -/
  | showMessage (channel : Notification.Channel) (message : String) (choices : List String)
  | executeCommand (command : String) (arguments : List Json)
  | references (query : Document.ReferenceQuery)

def Request.Reply : Request → Type
  | .setLanguageConfiguration _ _ => Unit
  | .configuration _ => Option Json
  | .start _ _ => Except Client.Failure Unit
  | .openTextDocument _ => Except Error Uri
  | .showMessage _ _ _ => Option String
  | .executeCommand _ _ => Except Error (Option Json)
  | .references _ => Except Client.Failure (Option (List Document.Location))

/-- One reply to every request that could be made. -/
abbrev Answers : Type := (request : Request) → request.Reply

end XmlSupport.Session
