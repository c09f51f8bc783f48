import XmlSupport.Json.Value

/-!
# What Enter does to the new line
-/

namespace XmlSupport.Indent

inductive Action where
  | none
  | indent
  /-- Indents the new line and pushes the text behind the cursor to an outdented one. -/
  | indentOutdent
  | outdent
  deriving DecidableEq, Repr

namespace Action

def all : List Action := [.none, .indent, .indentOutdent, .outdent]

def name : Action → String
  | .none => "none"
  | .indent => "indent"
  | .indentOutdent => "indentOutdent"
  | .outdent => "outdent"

def toJson (a : Action) : Json := .string a.name

end Action
end XmlSupport.Indent
