import XmlSupport.Text.Utf8

/-!
# Faults of a document text and where they are

A reader works on the rest of the text. When it stops, the fault is placed by
what has been consumed so far: the line, counted from one, and the number of
bytes consumed of that line.
-/

namespace XmlSupport.Json

inductive Fault where
  | endOfList
  | endOfObject
  | endOfString
  | endOfValue
  | expectedColon
  | expectedListCommaOrEnd
  | expectedObjectCommaOrEnd
  | expectedIdent
  | expectedValue
  | invalidEscape
  | invalidNumber
  | numberOutOfRange
  | keyNotString
  | controlCharacter
  | loneSurrogate
  | endOfHexEscape
  | trailingComma
  | trailingCharacters
  deriving DecidableEq, Repr

def Fault.message : Fault → String
  | .endOfList => "EOF while parsing a list"
  | .endOfObject => "EOF while parsing an object"
  | .endOfString => "EOF while parsing a string"
  | .endOfValue => "EOF while parsing a value"
  | .expectedColon => "expected `:`"
  | .expectedListCommaOrEnd => "expected `,` or `]`"
  | .expectedObjectCommaOrEnd => "expected `,` or `\x7d`"
  | .expectedIdent => "expected ident"
  | .expectedValue => "expected value"
  | .invalidEscape => "invalid escape"
  | .invalidNumber => "invalid number"
  | .numberOutOfRange => "number out of range"
  | .keyNotString => "key must be a string"
  | .controlCharacter => "control character (\\u0000-\\u001F) found while parsing a string"
  | .loneSurrogate => "lone leading surrogate in hex escape"
  | .endOfHexEscape => "unexpected end of hex escape"
  | .trailingComma => "trailing comma"
  | .trailingCharacters => "trailing characters"

/-- A place in a text: a line from one on, and the bytes consumed of it. -/
structure Place where
  line : Nat
  column : Nat
  deriving DecidableEq, Repr

namespace Place

def start : Place := ⟨1, 0⟩

def step (p : Place) (b : UInt8) : Place :=
  if b = 10 then ⟨p.line + 1, 0⟩ else ⟨p.line, p.column + 1⟩

def afterBytes (bytes : Bytes) : Place := bytes.foldl step start

def describe (p : Place) (message : String) : String :=
  message ++ " at line " ++ toString p.line ++ " column " ++ toString p.column

end Place

/-- Why and where a reader stopped: the text still ahead, and how many of its
bytes count as consumed. -/
structure Stop (ε : Type) where
  fault : ε
  rest : List Char
  extra : Nat
  deriving Repr

namespace Stop

variable {ε : Type}

/-- Stops before the next character. -/
def here (fault : ε) (rest : List Char) : Stop ε := ⟨fault, rest, 0⟩

/-- Stops on the next character, whose first byte counts as consumed. -/
def ahead (fault : ε) (rest : List Char) : Stop ε := ⟨fault, rest, 1⟩

def place (text : List Char) (s : Stop ε) : Place :=
  Place.afterBytes (Utf8.encodeList (text.take (text.length - s.rest.length)) ++
    (Utf8.encodeList s.rest).take s.extra)

end Stop

/-- A reader returns what it read and the text still ahead. -/
abbrev Read (ε α : Type) : Type := Except (Stop ε) (α × List Char)

end XmlSupport.Json
