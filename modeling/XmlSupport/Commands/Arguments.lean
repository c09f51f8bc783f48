import XmlSupport.Document.Position
import XmlSupport.Json.Printer

/-!
# Arguments of the client's commands
-/

namespace XmlSupport.Commands

open Json

/-- Why the arguments of a command are refused. -/
inductive ArgumentFault where
  | notUri (found : Option Json)
  | missingPosition
  | badPosition (mismatch : Mismatch)
  | notSetting (found : Json)

def ArgumentFault.message : ArgumentFault → String
  | .notUri found => "expected a document URI, got " ++ debugOption found
  | .missingPosition => "missing position"
  | .badPosition mismatch => mismatch.message
  | .notSetting found => "expected a setting id, got " ++ found.compact

/-- A document and a position in it. -/
def placeArguments : List Json → Except ArgumentFault (String × Document.Position)
  | [] => .error (.notUri none)
  | .string uri :: rest =>
    match rest with
    | [] => .error .missingPosition
    | v :: _ =>
      match Document.Position.decode v with
      | .ok position => .ok (uri, position)
      | .error mismatch => .error (.badPosition mismatch)
  | v :: _ => .error (.notUri (some v))

/-- A setting, or none to show them all. -/
def settingArgument : List Json → Except ArgumentFault (Option String)
  | [] => .ok none
  | .null :: _ => .ok none
  | .string id :: _ => .ok (some id)
  | v :: _ => .error (.notSetting v)

end XmlSupport.Commands
