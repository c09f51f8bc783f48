import XmlSupport.Indent.Action
import XmlSupport.Pattern.Search

/-!
# The language configuration

What the editor installs for both languages: two patterns that classify a line
and the rules for Enter, of which the first that fits is applied.
-/

namespace XmlSupport.Indent

structure EnterRule where
  before : Pattern
  after : Option Pattern
  action : Action
  deriving DecidableEq, Repr

structure Configuration where
  increase : Pattern
  decrease : Pattern
  enterRules : List EnterRule
  deriving DecidableEq, Repr

namespace Configuration

def increasePattern : Pattern := .plain
  "<(?!\\?|[^>]*\\/>)([-_\\.A-Za-z0-9]+)(?=\\s|>)\\b[^>]*>(?!.*<\\/\\1>)|<!--(?!.*-->)|\\\x7b[^\x7d\"']*$"

def decreasePattern : Pattern := .plain
  "^\\s*(<\\/[-_\\.A-Za-z0-9]+\\b[^>]*>|-->|\\\x7d)"

/-- Enter between an open tag and a closing tag. -/
def betweenTags : EnterRule where
  before := .ignoringCase "<([_:\\w][_:\\w-.\\d]*)([^/>]*(?!/)>)[^<]*$"
  after := some (.ignoringCase "^<\\/([_:\\w][_:\\w-.\\d]*)\\s*>")
  action := .indentOutdent

/-- Enter behind an open tag. -/
def behindTag : EnterRule where
  before := .ignoringCase "<(\\w[\\w\\d]*)([^/>]*(?!/)>)[^<]*$"
  after := none
  action := .indent

/-- The configuration of XML and XSL documents. -/
def standard : Configuration := ⟨increasePattern, decreasePattern, [betweenTags, behindTag]⟩

/-- Whether an editor with this configuration indents the line after this one. -/
def increases (c : Configuration) (line : List Char) : Bool := c.increase.isFoundIn line

/-- Whether an editor with this configuration outdents this line. -/
def decreases (c : Configuration) (line : List Char) : Bool := c.decrease.isFoundIn line

/-- What an editor with this configuration does on Enter between two texts. -/
def onEnter (c : Configuration) (before after : List Char) : Option Action :=
  (c.enterRules.find? fun r =>
    r.before.isFoundIn before && r.after.all (·.isFoundIn after)).map (·.action)

end Configuration

def EnterRule.toJson (r : EnterRule) : Json :=
  .object (("beforeText", r.before.toJson) ::
    ((r.after.map fun p => ("afterText", p.toJson)).toList ++
      [("action", .object [("indentAction", r.action.toJson)])]))

def Configuration.toJson (c : Configuration) : Json :=
  .object
    [("indentationRules", .object
      [("increaseIndentPattern", c.increase.toJson), ("decreaseIndentPattern", c.decrease.toJson)]),
     ("onEnterRules", .array (c.enterRules.map EnterRule.toJson))]

end XmlSupport.Indent
