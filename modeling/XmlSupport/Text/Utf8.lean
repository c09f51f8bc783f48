/-!
# Byte strings and their text

Paths, environment entries and pipe contents are byte strings, and a byte
string need not be text. `chunks` cuts one into whole characters and maximal
malformed runs; strict and lossy decoding both read that list.
-/

namespace XmlSupport

/-- What the operating system passes around: any bytes at all. -/
abbrev Bytes := List UInt8

namespace Utf8

def encodeChar (c : Char) : Bytes :=
  let n := c.toNat
  if n < 0x80 then [UInt8.ofNat n]
  else if n < 0x800 then [UInt8.ofNat (0xC0 + n / 0x40), UInt8.ofNat (0x80 + n % 0x40)]
  else if n < 0x10000 then
    [UInt8.ofNat (0xE0 + n / 0x1000), UInt8.ofNat (0x80 + n / 0x40 % 0x40),
     UInt8.ofNat (0x80 + n % 0x40)]
  else
    [UInt8.ofNat (0xF0 + n / 0x40000), UInt8.ofNat (0x80 + n / 0x1000 % 0x40),
     UInt8.ofNat (0x80 + n / 0x40 % 0x40), UInt8.ofNat (0x80 + n % 0x40)]

def encodeList (cs : List Char) : Bytes := cs.flatMap encodeChar

def encode (s : String) : Bytes := encodeList s.toList

/-- A whole character, or a run of bytes that no character begins with. -/
inductive Chunk where
  | whole (c : Char)
  | broken (run : Bytes)
  deriving DecidableEq, Repr

def isContinuation (b : UInt8) : Bool := 0x80 ≤ b && b ≤ 0xBF

/-- The bytes that may follow a lead byte. The narrowed ranges leave out
overlong forms, surrogates and numbers past the last code point. -/
def followsLead (lead next : UInt8) : Bool :=
  if lead = 0xE0 then 0xA0 ≤ next && next ≤ 0xBF
  else if lead = 0xED then 0x80 ≤ next && next ≤ 0x9F
  else if lead = 0xF0 then 0x90 ≤ next && next ≤ 0xBF
  else if lead = 0xF4 then 0x80 ≤ next && next ≤ 0x8F
  else isContinuation next

/-- How many bytes a character with this lead byte takes; `0` for no lead byte. -/
def width (lead : UInt8) : Nat :=
  if lead < 0x80 then 1
  else if 0xC2 ≤ lead && lead ≤ 0xDF then 2
  else if 0xE0 ≤ lead && lead ≤ 0xEF then 3
  else if 0xF0 ≤ lead && lead ≤ 0xF4 then 4
  else 0

def assemble (lead : Nat) (tail : Bytes) : Char :=
  Char.ofNat (tail.foldl (fun n b => n * 0x40 + (b.toNat - 0x80)) lead)

def chunks : Bytes → List Chunk
  | [] => []
  | a :: rest =>
    match width a with
    | 1 => .whole (Char.ofNat a.toNat) :: chunks rest
    | 2 =>
      match rest with
      | b :: rest₁ =>
        if followsLead a b then .whole (assemble (a.toNat - 0xC0) [b]) :: chunks rest₁
        else .broken [a] :: chunks (b :: rest₁)
      | [] => [.broken [a]]
    | 3 =>
      match rest with
      | b :: rest₁ =>
        if followsLead a b then
          match rest₁ with
          | c :: rest₂ =>
            if isContinuation c then .whole (assemble (a.toNat - 0xE0) [b, c]) :: chunks rest₂
            else .broken [a, b] :: chunks (c :: rest₂)
          | [] => [.broken [a, b]]
        else .broken [a] :: chunks (b :: rest₁)
      | [] => [.broken [a]]
    | 4 =>
      match rest with
      | b :: rest₁ =>
        if followsLead a b then
          match rest₁ with
          | c :: rest₂ =>
            if isContinuation c then
              match rest₂ with
              | d :: rest₃ =>
                if isContinuation d then
                  .whole (assemble (a.toNat - 0xF0) [b, c, d]) :: chunks rest₃
                else .broken [a, b, c] :: chunks (d :: rest₃)
              | [] => [.broken [a, b, c]]
            else .broken [a, b] :: chunks (c :: rest₂)
          | [] => [.broken [a, b]]
        else .broken [a] :: chunks (b :: rest₁)
      | [] => [.broken [a]]
    | _ => .broken [a] :: chunks rest

def Chunk.whole? : Chunk → Option Char
  | .whole c => some c
  | .broken _ => none

def Chunk.lossy : Chunk → Char
  | .whole c => c
  | .broken _ => '\ufffd'

/-- The text of a byte string, if it is text throughout. -/
def decode? (bytes : Bytes) : Option String :=
  ((chunks bytes).mapM Chunk.whole?).map String.ofList

/-- The text of a byte string, with one replacement character for each malformed run. -/
def decodeLossy (bytes : Bytes) : String := String.ofList ((chunks bytes).map Chunk.lossy)

end Utf8
end XmlSupport
