import XmlSupport.Text.Quoted

/-!
# Percent encoding

Each part of a URI has characters that are written as `%` and two hexadecimal
digits: always the controls and everything past ASCII, and some punctuation
that depends on the part.
-/

namespace XmlSupport.Uri

/-- Controls and bytes past ASCII are encoded in every part. -/
def isControlByte (b : UInt8) : Bool := b < 0x20 || 0x7F ≤ b

def isOneOf (punctuation : String) (b : UInt8) : Bool :=
  punctuation.toList.any (·.toNat == b.toNat)

def inFragment (b : UInt8) : Bool := isControlByte b || isOneOf " \"<>`" b

def inPath (b : UInt8) : Bool := inFragment b || isOneOf "#?\x7b\x7d" b

def inUserInfo (b : UInt8) : Bool := inPath b || isOneOf "/:;=@[\\]^|" b

def inQuery (b : UInt8) : Bool := isControlByte b || isOneOf " \"#<>" b

def inSpecialQuery (b : UInt8) : Bool := inQuery b || isOneOf "'" b

def percentByte (b : UInt8) : List Char :=
  ['%', Text.upperHexDigit (b.toNat / 16), Text.upperHexDigit (b.toNat % 16)]

def encodeByte (encoded : UInt8 → Bool) (b : UInt8) : List Char :=
  if encoded b then percentByte b else [Char.ofNat b.toNat]

/-- Writes a text with the bytes that `encoded` tells in percent form. -/
def percentEncode (encoded : UInt8 → Bool) (cs : List Char) : List Char :=
  (Utf8.encodeList cs).flatMap (encodeByte encoded)

def hexDigitValue? (c : Char) : Option Nat :=
  if '0' ≤ c ∧ c ≤ '9' then some (c.toNat - 48)
  else if 'a' ≤ c ∧ c ≤ 'f' then some (c.toNat - 87)
  else if 'A' ≤ c ∧ c ≤ 'F' then some (c.toNat - 55)
  else none

/-- The bytes that a text with percent forms stands for. A lone percent sign is itself. -/
def percentDecode : List Char → Bytes
  | [] => []
  | '%' :: a :: b :: rest =>
    match hexDigitValue? a, hexDigitValue? b with
    | some x, some y => UInt8.ofNat (16 * x + y) :: percentDecode rest
    | _, _ => Utf8.encodeChar '%' ++ percentDecode (a :: b :: rest)
  | c :: rest => Utf8.encodeChar c ++ percentDecode rest

end XmlSupport.Uri
