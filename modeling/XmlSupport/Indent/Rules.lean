import XmlSupport.Indent.Action
import XmlSupport.Indent.Scan

/-!
# Indentation of XML lines

A line indents the next one when it leaves a tag, a comment or a brace open,
and is itself outdented when it begins by closing one. Enter between an open
tag and a closing tag makes room for a line between them.
-/

namespace XmlSupport.Indent

/-- Whether the name in front of `rest` may end here: at white space or at the
end of its tag. -/
def endsName : List Char → Bool
  | [] => false
  | c :: _ => c = '>' || Text.isBlank c

def closingTag (name : List Char) : List Char := ['<', '/'] ++ name ++ ['>']

/-- Whether the text behind a `<` is an opening tag that nothing later on the
line closes. Processing instructions and self-closing tags open nothing. -/
def leavesTagOpen (rest : List Char) : Bool :=
  match cut? '>' rest with
  | none => false
  | some (inside, behind) =>
    let name := rest.takeWhile isNameChar
    rest.head? != some '?' && inside.getLast? != some '/' && name.getLast?.any isWordChar &&
      endsName (rest.dropWhile isNameChar) && !occurs (closingTag name) behind

def opensTagHere : List Char → Bool
  | '<' :: rest => leavesTagOpen rest
  | _ => false

def opensCommentHere (cs : List Char) : Bool :=
  match after? "<!--".toList cs with
  | some rest => !occurs "-->".toList rest
  | none => false

/-- A brace stays open when neither a closing brace nor a quote follows. -/
def opensBraceHere : List Char → Bool
  | '\x7b' :: rest => rest.all fun c => c != '\x7d' && c != '"' && c != '\''
  | _ => false

/-- Whether the line after this one is indented. -/
def increases (line : List Char) : Bool :=
  anywhere opensTagHere line || anywhere opensCommentHere line || anywhere opensBraceHere line

/-- A closing tag whose name holds a letter, a digit or an underscore. -/
def closesTagHere (cs : List Char) : Bool :=
  match after? ['<', '/'] cs with
  | none => false
  | some rest =>
    match rest.dropWhile fun c => c = '-' || c = '.' with
    | [] => false
    | c :: rest => isWordChar c && rest.contains '>'

/-- Whether this line is outdented: its first mark closes a tag, a comment or a brace. -/
def decreases (line : List Char) : Bool :=
  let cs := line.dropWhile Text.isBlank
  closesTagHere cs || (after? "-->".toList cs).isSome || (after? ['\x7d'] cs).isSome

/-- A tag without a slash that begins with a character of `start`, and no
other `<` behind it. -/
def endsInTagHere (start : Char → Bool) : List Char → Bool
  | '<' :: c :: rest =>
    start c &&
      match rest.dropWhile fun d => d != '/' && d != '>' with
      | '>' :: behind => !behind.contains '<'
      | _ => false
  | _ => false

/-- Whether a text ends in an open tag and what it holds. -/
def endsInTag (start : Char → Bool) (before : List Char) : Bool :=
  anywhere (endsInTagHere start) before

/-- Whether a text begins with a closing tag. -/
def startsWithClosingTag (after : List Char) : Bool :=
  match after? ['<', '/'] after with
  | some (c :: rest) =>
    isQualifiedStart c &&
      ((rest.dropWhile isQualifiedChar).dropWhile Text.isBlank).head? == some '>'
  | _ => false

/-- What Enter does between two texts of a line. -/
def onEnter (before after : List Char) : Option Action :=
  if endsInTag isQualifiedStart before && startsWithClosingTag after then some .indentOutdent
  else if endsInTag isWordChar before then some .indent
  else none

end XmlSupport.Indent
