import XmlSupport.Json.Value

/-!
# Failed requests

A server answers a request that it cannot serve with a numbered failure.
-/

namespace XmlSupport.Client

structure Failure where
  code : Int
  message : String
  /-- What the server adds for programs to read. The text of a failure leaves it out. -/
  data : Option Json
  deriving Repr

namespace Failure

/-- What a failure number stands for. -/
def description (code : Int) : String :=
  if code = -32700 then "Parse error"
  else if code = -32600 then "Invalid request"
  else if code = -32601 then "Method not found"
  else if code = -32602 then "Invalid params"
  else if code = -32603 then "Internal error"
  else if code = -32800 then "Canceled"
  else if code = -32801 then "Content modified"
  else "Server error"

def text (f : Failure) : String := description f.code ++ ": " ++ f.message

end Failure
end XmlSupport.Client
