import XmlSupport.Client.Failure
import XmlSupport.Json.Mismatch
import XmlSupport.Machine.Fault

/-!
# Errors of the client

Everything that can go wrong between editor, client and server, and the one
text in which each error is reported.
-/

namespace XmlSupport

inductive Error where
  /-- The server or its connection refused a request. -/
  | client (failure : Client.Failure)
  /-- The editor refused a request. -/
  | host (reason : String)
  | unknownCommand (id : String)
  | invalidArguments (command reason : String)
  | invalidUri (uri reason : String)
  | invalidNotification (method : String) (mismatch : Json.Mismatch)
  /-- A path that is no text cannot be written into a document. -/
  | unwritablePath
  | settings (path : Bytes) (reason : String)
  | io (fault : Machine.Fault)
  deriving Repr

def Error.message : Error → String
  | .client failure => "Language client request failed: " ++ failure.text
  | .host reason => "Host request failed: " ++ reason
  | .unknownCommand id => "Unknown command: " ++ id
  | .invalidArguments command reason => "Invalid arguments for " ++ command ++ ": " ++ reason
  | .invalidUri uri reason => "Invalid document URI " ++ Text.quote uri ++ ": " ++ reason
  | .invalidNotification method mismatch =>
    "Malformed " ++ method ++ " notification: " ++ mismatch.message
  | .unwritablePath =>
    "Failed to serialize command arguments: path contains invalid UTF-8 characters"
  | .settings path reason =>
    "Failed to read settings from " ++ Text.quoteBytes path ++ ": " ++ reason
  | .io fault => fault.message

end XmlSupport
