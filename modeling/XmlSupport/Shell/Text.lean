import XmlSupport.Text.Utf8

/-!
# Text of scripts

A script, its variables and what it writes are byte strings. They are kept as
lists with one character for each byte.
-/

namespace XmlSupport.Shell

abbrev Text : Type := List Char

def ofBytes (bytes : Bytes) : Text := bytes.map fun b => Char.ofNat b.toNat

def toBytes (text : Text) : Bytes := text.map fun c => UInt8.ofNat c.toNat

/-- The bytes of a message. -/
def say (message : String) : Text := ofBytes (Utf8.encode message)

def decimal (n : Nat) : Text := Nat.toDigits 10 n

def integerText (n : Int) : Text := (toString n).toList

/-- The lines of a text without their ends; the end of the last line may be missing. -/
def lines (text : Text) : List Text :=
  match text.splitOn '\n' with
  | [] => []
  | parts => if parts.getLast? = some [] then parts.dropLast else parts

def unlines (parts : List Text) : Text := parts.flatMap (· ++ ['\n'])

/-- A substitution loses the line ends behind its text. -/
def trimLineEnds (text : Text) : Text := (text.reverse.dropWhile (· = '\n')).reverse

def joinWords (words : List Text) : Text := [' '].intercalate words

def isLetter (c : Char) : Bool := c.isAlpha || c = '_'

def isNamePart (c : Char) : Bool := c.isAlphanum || c = '_'

/-- Whether a text can name a variable. -/
def isName (text : Text) : Bool :=
  match text with
  | [] => false
  | c :: rest => isLetter c && rest.all isNamePart

end XmlSupport.Shell
