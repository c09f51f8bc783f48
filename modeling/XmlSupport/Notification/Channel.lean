/-!
# Severities

A server numbers the severity of a message. The first three numbers have a
channel on which the editor shows messages; the others are not shown.
-/

namespace XmlSupport.Notification

/-- Where the editor shows a message. -/
inductive Channel where
  | error
  | warning
  | information
  deriving DecidableEq, Repr

namespace Channel

def name : Channel → String
  | .error => "error"
  | .warning => "warning"
  | .information => "information"

def ofSeverity (severity : Int32) : Option Channel :=
  if severity = 1 then some .error
  else if severity = 2 then some .warning
  else if severity = 3 then some .information
  else none

end Channel
end XmlSupport.Notification
