import XmlSupport.Text.Unprintable
import XmlSupport.Text.Utf8

/-!
# Quoted text in messages

Messages show a text or a path between double quotes. A double quote and a
backslash get a backslash, four controls have letters, every other character
without a visible form is written by its number, and bytes of a path that are
no text are written one by one.
-/

namespace XmlSupport.Text

def lowerHexDigits (n : Nat) : List Char := Nat.toDigits 16 n

def upperHexDigit (n : Nat) : Char := ("0123456789ABCDEF".toList)[n]?.getD '0'

def escapeByNumber (c : Char) : List Char :=
  ['\\', 'u', '\x7b'] ++ lowerHexDigits c.toNat ++ ['\x7d']

def escapeChar (c : Char) : List Char :=
  if c = '"' then ['\\', '"']
  else if c = '\\' then ['\\', '\\']
  else if c = '\t' then ['\\', 't']
  else if c = '\n' then ['\\', 'n']
  else if c = '\r' then ['\\', 'r']
  else if c = '\x00' then ['\\', '0']
  else if ' ' ≤ c ∧ c ≤ '~' then [c]
  else if isUnprintable c then escapeByNumber c
  else [c]

def quoteList (cs : List Char) : List Char := '"' :: cs.flatMap escapeChar ++ ['"']

def quote (s : String) : String := String.ofList (quoteList s.toList)

def escapeByte (b : UInt8) : List Char :=
  ['\\', 'x', upperHexDigit (b.toNat / 16), upperHexDigit (b.toNat % 16)]

def escapeChunk : Utf8.Chunk → List Char
  | .whole c => escapeChar c
  | .broken run => run.flatMap escapeByte

/-- The quoted form of a path: malformed runs keep their bytes in sight. -/
def quoteBytes (bytes : Bytes) : String :=
  String.ofList ('"' :: (Utf8.chunks bytes).flatMap escapeChunk ++ ['"'])

end XmlSupport.Text
