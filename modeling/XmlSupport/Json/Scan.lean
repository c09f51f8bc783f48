import XmlSupport.Json.Fault
import XmlSupport.Json.Value

/-!
# Words, strings and numbers of a document text

The pieces of a document text below the level of arrays and objects, each as a
function on the text still ahead. Strings and numbers come in two kinds: one
that is decoded, and one that is only passed over and so accepts more.
-/

namespace XmlSupport.Json

def isSpace (c : Char) : Bool := c = ' ' || c = '\n' || c = '\t' || c = '\r'

def dropSpace (cs : List Char) : List Char := cs.dropWhile isSpace

/-- The rest of a literal word whose first letter has been consumed. -/
def readWord : List Char → List Char → Except (Stop Fault) (List Char)
  | [], rest => .ok rest
  | _ :: _, [] => .error (.here .endOfValue [])
  | w :: word, c :: rest =>
    if c = w then readWord word rest else .error (.ahead .expectedIdent (c :: rest))

def hexValue? (c : Char) : Option Nat :=
  if '0' ≤ c ∧ c ≤ '9' then some (c.toNat - 48)
  else if 'a' ≤ c ∧ c ≤ 'f' then some (c.toNat - 87)
  else if 'A' ≤ c ∧ c ≤ 'F' then some (c.toNat - 55)
  else none

/-- The number written by four hexadecimal digits. -/
def hexUnit? : List Char → Option (Nat × List Char)
  | a :: b :: c :: d :: rest => do
    let a ← hexValue? a
    let b ← hexValue? b
    let c ← hexValue? c
    let d ← hexValue? d
    return (((a * 16 + b) * 16 + c) * 16 + d, rest)
  | _ => none

/-- Four bytes are taken for a number, whatever they are. -/
def readHexUnit (rest : List Char) : Read Fault Nat :=
  match hexUnit? rest with
  | some r => .ok r
  | none =>
    let ahead := (Utf8.encodeList (rest.take 4)).length
    if ahead < 4 then .error ⟨.endOfString, rest, ahead⟩ else .error ⟨.invalidEscape, rest, 4⟩

def isHighSurrogate (n : Nat) : Bool := 0xD800 ≤ n && n ≤ 0xDBFF

def isLowSurrogate (n : Nat) : Bool := 0xDC00 ≤ n && n ≤ 0xDFFF

def pairSurrogates (high low : Nat) : Nat := (high - 0xD800) * 0x400 + (low - 0xDC00) + 0x10000

/-- The second half of a surrogate pair, its high half read. -/
def readLowSurrogate (high : Nat) : List Char → Read Fault Char
  | '\\' :: 'u' :: rest =>
    match readHexUnit rest with
    | .error stop => .error stop
    | .ok (low, rest) =>
      if isLowSurrogate low then .ok (Char.ofNat (pairSurrogates high low), rest)
      else .error (.here .loneSurrogate rest)
  | [] => .error (.here .endOfString [])
  | '\\' :: [] => .error (.here .endOfString [])
  | '\\' :: rest => .error (.ahead .endOfHexEscape rest)
  | rest => .error (.ahead .endOfHexEscape rest)

/-- The character of a numeric escape whose `\u` has been consumed. A high
surrogate must be followed by a second escape with a low one. -/
def readEscapedNumber (rest : List Char) : Read Fault Char :=
  match readHexUnit rest with
  | .error stop => .error stop
  | .ok (n, rest) =>
    if isLowSurrogate n then .error (.here .loneSurrogate rest)
    else if isHighSurrogate n then readLowSurrogate n rest
    else .ok (Char.ofNat n, rest)

/-- What a one-letter escape stands for. -/
def escapedLetter? (c : Char) : Option Char :=
  if c = '"' then some '"'
  else if c = '\\' then some '\\'
  else if c = '/' then some '/'
  else if c = 'b' then some '\x08'
  else if c = 'f' then some '\x0c'
  else if c = 'n' then some '\n'
  else if c = 'r' then some '\r'
  else if c = 't' then some '\t'
  else none

/-- The character of an escape whose backslash has been consumed. -/
def readEscape : List Char → Read Fault Char
  | [] => .error (.here .endOfString [])
  | 'u' :: rest => readEscapedNumber rest
  | c :: rest =>
    match escapedLetter? c with
    | some d => .ok (d, rest)
    | none => .error (.ahead .invalidEscape (c :: rest))

/-- The characters up to the closing quote, in front of `before` in reverse order. -/
def readCharacters : Nat → List Char → List Char → Read Fault (List Char)
  | 0, _, rest => .error (.here .endOfString rest)
  | _ + 1, _, [] => .error (.here .endOfString [])
  | fuel + 1, before, c :: rest =>
    if c = '"' then .ok (before.reverse, rest)
    else if c = '\\' then
      match readEscape rest with
      | .error stop => .error stop
      | .ok (d, rest) => readCharacters fuel (d :: before) rest
    else if c.toNat < 0x20 then .error (.ahead .controlCharacter (c :: rest))
    else readCharacters fuel (c :: before) rest

/-- A string whose opening quote has been consumed. -/
def readString (rest : List Char) : Read Fault String :=
  match readCharacters (rest.length + 1) [] rest with
  | .error stop => .error stop
  | .ok (cs, rest) => .ok (String.ofList cs, rest)

/-- Passes over an escape; any four hexadecimal digits will do. -/
def skipEscape : List Char → Except (Stop Fault) (List Char)
  | [] => .error (.here .endOfString [])
  | 'u' :: rest => (readHexUnit rest).map (·.2)
  | c :: rest =>
    if (escapedLetter? c).isSome then .ok rest else .error (.ahead .invalidEscape (c :: rest))

def skipCharacters : Nat → List Char → Except (Stop Fault) (List Char)
  | 0, rest => .error (.here .endOfString rest)
  | _ + 1, [] => .error (.here .endOfString [])
  | fuel + 1, c :: rest =>
    if c = '"' then .ok rest
    else if c = '\\' then
      match skipEscape rest with
      | .error stop => .error stop
      | .ok rest => skipCharacters fuel rest
    else if c.toNat < 0x20 then .error (.here .controlCharacter (c :: rest))
    else skipCharacters fuel rest

/-- Passes over a string whose opening quote has been consumed. -/
def skipString (rest : List Char) : Except (Stop Fault) (List Char) :=
  skipCharacters (rest.length + 1) rest

def isDigit (c : Char) : Bool := '0' ≤ c && c ≤ '9'

def digitValue (c : Char) : Nat := c.toNat - 48

def dropDigits (cs : List Char) : List Char := cs.dropWhile isDigit

def skipExponent : List Char → Except (Stop Fault) (List Char)
  | [] => .error (.here .invalidNumber [])
  | c :: rest =>
    let digits := if c = '+' || c = '-' then rest else c :: rest
    match digits with
    | [] => .error (.here .invalidNumber [])
    | d :: more =>
      if isDigit d then .ok (dropDigits more) else .error (.ahead .invalidNumber (d :: more))

def skipFraction (rest : List Char) : Except (Stop Fault) (List Char) :=
  match rest with
  | [] => .error (.here .invalidNumber [])
  | d :: more =>
    if isDigit d then
      match dropDigits more with
      | 'e' :: rest => skipExponent rest
      | 'E' :: rest => skipExponent rest
      | rest => .ok rest
    else .error (.ahead .invalidNumber (d :: more))

def skipNumberTail : List Char → Except (Stop Fault) (List Char)
  | '.' :: rest => skipFraction rest
  | 'e' :: rest => skipExponent rest
  | 'E' :: rest => skipExponent rest
  | rest => .ok rest

/-- Passes over a number after its sign. -/
def skipNumber : List Char → Except (Stop Fault) (List Char)
  | [] => .error (.here .invalidNumber [])
  | c :: rest =>
    if c = '0' then
      match rest with
      | d :: more =>
        if isDigit d then .error (.ahead .invalidNumber (d :: more)) else skipNumberTail (d :: more)
      | [] => .ok []
    else if isDigit c then skipNumberTail (dropDigits rest)
    else .error (.ahead .invalidNumber (c :: rest))

/-- The largest significand that is kept: decimal digits past it only count. -/
def maxSignificand : Nat := 0xFFFFFFFFFFFFFFFF

/-- The largest decimal exponent that is read; a longer one is out of range or zero. -/
def maxWrittenExponent : Nat := 0x7FFFFFFF

/-- The greatest power of ten that is finite. -/
def maxTenPower : Nat := 308

/-- Divides by a power of ten, at most `10^308` at a time, until nothing is left. -/
def shrink : Nat → Binary64 → Nat → Option Binary64
  | 0, x, k => (Binary64.ofNat (Nat.pow 10 k)).bind x.div
  | fuel + 1, x, k =>
    if k ≤ maxTenPower then (Binary64.ofNat (Nat.pow 10 k)).bind x.div
    else if x.isZero then some x
    else
      ((Binary64.ofNat (Nat.pow 10 maxTenPower)).bind x.div).bind fun y =>
        shrink fuel y (k - maxTenPower)

/-- Multiplies by a power of ten. -/
def grow (x : Binary64) (k : Nat) : Option Binary64 :=
  if k ≤ maxTenPower then (Binary64.ofNat (Nat.pow 10 k)).bind x.mul
  else if x.isZero then some x
  else none

/-- A decimal number by one rounded significand and rounded products or quotients. -/
def composeFloat (negative : Bool) (significand : Nat) (exponent : Int) : Option Binary64 :=
  ((Binary64.ofNat significand).bind fun x =>
    if exponent < 0 then shrink (-exponent).toNat x (-exponent).toNat
    else grow x exponent.toNat).map
  (Binary64.withSign negative)

def finishFloat (negative : Bool) (significand : Nat) (exponent : Int) (rest : List Char) :
    Read Fault Number :=
  match composeFloat negative significand exponent with
  | some x => .ok (.float x, rest)
  | none => .error (.here .numberOutOfRange rest)

/-- Reads exponent digits after the first; a number past the limit ends at the digit that passes
it. -/
def readExponentDigits : Nat → List Char → Nat × Option (List Char)
  | n, [] => (n, some [])
  | n, c :: rest =>
    if isDigit c then
      let n' := n * 10 + digitValue c
      if maxWrittenExponent < n' then (n, none) else readExponentDigits n' rest
    else (n, some (c :: rest))

/-- The text after the digit that passes the limit. -/
def afterOverflow : Nat → List Char → List Char
  | _, [] => []
  | n, c :: rest =>
    if isDigit c then
      let n' := n * 10 + digitValue c
      if maxWrittenExponent < n' then rest else afterOverflow n' rest
    else c :: rest

def readExponent (negative : Bool) (significand : Nat) (exponent : Int) (rest : List Char) :
    Read Fault Number :=
  let (down, digits) := match rest with
    | '+' :: more => (false, more)
    | '-' :: more => (true, more)
    | more => (false, more)
  match digits with
  | [] => .error (.here .endOfValue [])
  | d :: more =>
    if isDigit d then
      match readExponentDigits (digitValue d) more with
      | (n, some rest) =>
        finishFloat negative significand (if down then exponent - n else exponent + n) rest
      | (_, none) =>
        let rest := afterOverflow (digitValue d) more
        if significand ≠ 0 ∧ ¬ down then .error (.here .numberOutOfRange rest)
        else .ok (.float (.zero negative), dropDigits rest)
    else .error (.ahead .invalidNumber (d :: more))

def readAfterFraction (negative : Bool) (significand : Nat) (exponent : Int) (rest : List Char) :
    Read Fault Number :=
  match rest with
  | 'e' :: more => readExponent negative significand exponent more
  | 'E' :: more => readExponent negative significand exponent more
  | more => finishFloat negative significand exponent more

/-- Takes fraction digits into the significand as long as it has room. -/
def takeFraction : Nat → Int → List Char → Nat × Int × List Char
  | n, e, [] => (n, e, [])
  | n, e, c :: rest =>
    if isDigit c then
      let n' := n * 10 + digitValue c
      if maxSignificand < n' then (n, e, dropDigits (c :: rest)) else takeFraction n' (e - 1) rest
    else (n, e, c :: rest)

def readFraction (negative : Bool) (significand : Nat) (exponent : Int) (rest : List Char) :
    Read Fault Number :=
  match rest with
  | [] => .error (.here .endOfValue [])
  | d :: more =>
    if isDigit d then
      let (n, e, rest) := takeFraction significand exponent (d :: more)
      readAfterFraction negative n e rest
    else .error (.ahead .invalidNumber (d :: more))

/-- Takes integer digits as long as they fit a word; the others are counted. -/
def takeInteger : Nat → List Char → Nat × Nat × List Char
  | n, [] => (n, 0, [])
  | n, c :: rest =>
    if isDigit c then
      let n' := n * 10 + digitValue c
      if maxSignificand < n' then
        let tail := dropDigits rest
        (n, (c :: rest).length - tail.length, tail)
      else takeInteger n' rest
    else (n, 0, c :: rest)

/-- An integer of 64 bits; past them, and for minus zero, a floating point number. -/
def finishInteger (negative : Bool) (n : Nat) (rest : List Char) : Read Fault Number :=
  if ¬ negative then .ok (.integer n, rest)
  else if n = 0 ∨ 0x8000000000000000 < n then finishFloat true n 0 rest
  else .ok (.integer (-n), rest)

def readNumberTail (negative : Bool) (n dropped : Nat) (rest : List Char) : Read Fault Number :=
  match rest with
  | '.' :: more => readFraction negative n dropped more
  | 'e' :: more => readExponent negative n dropped more
  | 'E' :: more => readExponent negative n dropped more
  | more =>
    if dropped = 0 then finishInteger negative n more else finishFloat negative n dropped more

/-- A number after its sign. -/
def readNumber (negative : Bool) : List Char → Read Fault Number
  | [] => .error (.here .endOfValue [])
  | c :: rest =>
    if c = '0' then
      match rest with
      | d :: more =>
        if isDigit d then .error (.ahead .invalidNumber (d :: more))
        else readNumberTail negative 0 0 (d :: more)
      | [] => readNumberTail negative 0 0 []
    else if isDigit c then
      let (n, dropped, rest) := takeInteger 0 (c :: rest)
      readNumberTail negative n dropped rest
    else .error (.ahead .invalidNumber (c :: rest))

end XmlSupport.Json
