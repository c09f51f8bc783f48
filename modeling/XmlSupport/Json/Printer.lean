import XmlSupport.Json.Value
import XmlSupport.Text.Quoted

/-!
# Written forms of a value

`compact` writes a value without any space, `pretty` sets each item and member
on a line of its own, two spaces deeper than the bracket around it. `debug` is
the form in which a message quotes a value it did not expect.
-/

namespace XmlSupport.Json

def hexDigit (n : Nat) : Char := ("0123456789abcdef".toList)[n]?.getD '0'

/-- Only what has to be escaped is escaped: the quote, the backslash and the controls. -/
def escapeChar (c : Char) : List Char :=
  if c = '"' then ['\\', '"']
  else if c = '\\' then ['\\', '\\']
  else if c = '\x08' then ['\\', 'b']
  else if c = '\t' then ['\\', 't']
  else if c = '\n' then ['\\', 'n']
  else if c = '\x0c' then ['\\', 'f']
  else if c = '\r' then ['\\', 'r']
  else if c.toNat < 0x20 then
    ['\\', 'u', '0', '0', hexDigit (c.toNat / 16), hexDigit (c.toNat % 16)]
  else [c]

def stringText (s : String) : List Char := '"' :: s.toList.flatMap escapeChar ++ ['"']

def boolText (b : Bool) : List Char := if b then "true".toList else "false".toList

mutual

def text : Json → List Char
  | .null => "null".toList
  | .bool b => boolText b
  | .number n => n.text
  | .string s => stringText s
  | .array items => '[' :: itemsText items
  | .object members => '\x7b' :: membersText members

def itemsText : List Json → List Char
  | [] => [']']
  | v :: rest => text v ++ moreItemsText rest

def moreItemsText : List Json → List Char
  | [] => [']']
  | v :: rest => ',' :: text v ++ moreItemsText rest

def membersText : List (String × Json) → List Char
  | [] => ['\x7d']
  | (k, v) :: rest => stringText k ++ ':' :: text v ++ moreMembersText rest

def moreMembersText : List (String × Json) → List Char
  | [] => ['\x7d']
  | (k, v) :: rest => ',' :: stringText k ++ ':' :: text v ++ moreMembersText rest

end

def compact (v : Json) : String := String.ofList (text v)

def newLine (depth : Nat) : List Char := '\n' :: List.replicate (2 * depth) ' '

mutual

/-- The pretty form of a value whose own brackets stand `depth` levels deep. -/
def prettyText (depth : Nat) : Json → List Char
  | .null => "null".toList
  | .bool b => boolText b
  | .number n => n.text
  | .string s => stringText s
  | .array items => '[' :: prettyItems depth items
  | .object members => '\x7b' :: prettyMembers depth members

def prettyItems (depth : Nat) : List Json → List Char
  | [] => [']']
  | v :: rest => newLine (depth + 1) ++ prettyText (depth + 1) v ++ morePrettyItems depth rest

def morePrettyItems (depth : Nat) : List Json → List Char
  | [] => newLine depth ++ [']']
  | v :: rest =>
    ',' :: newLine (depth + 1) ++ prettyText (depth + 1) v ++ morePrettyItems depth rest

def prettyMembers (depth : Nat) : List (String × Json) → List Char
  | [] => ['\x7d']
  | (k, v) :: rest =>
    newLine (depth + 1) ++ stringText k ++ ": ".toList ++ prettyText (depth + 1) v ++
      morePrettyMembers depth rest

def morePrettyMembers (depth : Nat) : List (String × Json) → List Char
  | [] => newLine depth ++ ['\x7d']
  | (k, v) :: rest =>
    ',' :: newLine (depth + 1) ++ stringText k ++ ": ".toList ++ prettyText (depth + 1) v ++
      morePrettyMembers depth rest

end

def pretty (v : Json) : String := String.ofList (prettyText 0 v)

def commaSeparated (parts : List String) : String := ", ".intercalate parts

mutual

def debug : Json → String
  | .null => "Null"
  | .bool b => "Bool(" ++ String.ofList (boolText b) ++ ")"
  | .number n => "Number(" ++ String.ofList n.text ++ ")"
  | .string s => "String(" ++ Text.quote s ++ ")"
  | .array items => "Array [" ++ commaSeparated (debugItems items) ++ "]"
  | .object members => "Object \x7b" ++ commaSeparated (debugMembers members) ++ "\x7d"

def debugItems : List Json → List String
  | [] => []
  | v :: rest => debug v :: debugItems rest

def debugMembers : List (String × Json) → List String
  | [] => []
  | (k, v) :: rest => (Text.quote k ++ ": " ++ debug v) :: debugMembers rest

end

/-- The form in which a message quotes a value that may be missing. -/
def debugOption : Option Json → String
  | none => "None"
  | some v => "Some(" ++ debug v ++ ")"

end XmlSupport.Json
