import XmlSupport.Json.Printer
import XmlSupport.Text.Quoted

/-!
# Log entries
-/

namespace XmlSupport.Log

inductive Level where
  | debug
  | info
  | warn
  deriving DecidableEq, Repr

def Level.name : Level → String
  | .debug => "DEBUG"
  | .info => "INFO"
  | .warn => "WARN"

/-- A message with named fields beside it. -/
structure Entry where
  level : Level
  message : String
  fields : List (String × String)
  deriving DecidableEq, Repr

/-- What a line of the log file shows of an entry. -/
def Entry.members (e : Entry) : List (String × Json) :=
  [("level", .string e.level.name),
    ("fields",
      .object (("message", .string e.message) :: e.fields.map fun (k, v) => (k, .string v)))]

def Entry.toJson (e : Entry) : Json := .object e.members

/-- The whole line, with the time at which it was written and where the entry comes from. -/
def Entry.line (e : Entry) (time target : String) : String :=
  let members := ("timestamp", .string time) :: e.members ++ [("target", .string target)]
  Json.compact (.object members) ++ "\n"

def debug (message : String) : Entry := ⟨.debug, message, []⟩

def info (message : String) : Entry := ⟨.info, message, []⟩

def warn (message : String) : Entry := ⟨.warn, message, []⟩

/-- How a field shows a text that may be missing. -/
def quoteOption : Option String → String
  | none => "None"
  | some s => "Some(" ++ Text.quote s ++ ")"

end XmlSupport.Log
