import XmlSupport.Json.Decode

/-!
# Actionable messages

A server message that offers commands. On the wire a message or a command is an
object, or an array of its fields in order; what is left out and what is null
are the same, and neither is written.
-/

namespace XmlSupport.Notification

open Json

/-- A command that the editor can run, and the title under which it is offered. -/
structure Command where
  title : String
  command : String
  arguments : Option (List Json)
  deriving Repr, BEq

structure Message where
  severity : Int32
  message : String
  data : Option Json
  commands : Option (List Command)
  deriving Repr, BEq

namespace Command

def ofMembers (members : List (String × Json)) : Except Mismatch Command := do
  let arguments ← Decode.member "arguments" (Decode.optional Decode.sequence) members
  let command ← Decode.member "command" Decode.string members
  let title ← Decode.member "title" Decode.string members
  let title ← Decode.required "title" title
  let command ← Decode.required "command" command
  return ⟨title, command, arguments.join⟩

def ofItems (items : List Json) : Except Mismatch Command := do
  let (title, rest) ← Decode.item "Command" 3 0 Decode.string items
  let (command, rest) ← Decode.item "Command" 3 1 Decode.string rest
  let (arguments, rest) ← Decode.item "Command" 3 2 (Decode.optional Decode.sequence) rest
  Decode.finished items.length rest
  return ⟨title, command, arguments⟩

def decode : Decoder Command := Decode.record "Command" ofMembers ofItems

def encode (c : Command) : Json :=
  .object ((c.arguments.map fun a => ("arguments", Json.array a)).toList ++
    [("command", .string c.command), ("title", .string c.title)])

end Command

namespace Message

/-- A list of commands that may be left out. -/
def decodeCommands : Decoder (Option (List Command)) :=
  Decode.optional (Decode.listOf Command.decode)

def ofMembers (members : List (String × Json)) : Except Mismatch Message := do
  let commands ← Decode.member "commands" decodeCommands members
  let data ← Decode.member "data" Decode.anything members
  let message ← Decode.member "message" Decode.string members
  let severity ← Decode.member "severity" Decode.int32 members
  let severity ← Decode.required "severity" severity
  let message ← Decode.required "message" message
  return ⟨severity, message, data.join, commands.join⟩

def ofItems (items : List Json) : Except Mismatch Message := do
  let (severity, rest) ← Decode.item "ActionableMessage" 4 0 Decode.int32 items
  let (message, rest) ← Decode.item "ActionableMessage" 4 1 Decode.string rest
  let (data, rest) ← Decode.itemOr none Decode.anything rest
  let (commands, rest) ← Decode.itemOr none decodeCommands rest
  Decode.finished items.length rest
  return ⟨severity, message, data, commands⟩

def decode : Decoder Message := Decode.record "ActionableMessage" ofMembers ofItems

def encode (m : Message) : Json :=
  .object ((m.commands.map fun cs => ("commands", Json.array (cs.map Command.encode))).toList ++
    (m.data.map fun v => ("data", v)).toList ++
    [("message", .string m.message), ("severity", .integer m.severity.toInt)])

end Message
end XmlSupport.Notification
