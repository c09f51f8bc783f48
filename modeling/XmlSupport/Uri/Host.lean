import XmlSupport.Uri.Basic
import XmlSupport.Uri.Label.Basic
import XmlSupport.Uri.Percent

/-!
# Hosts

Hosts of the special schemes are domain names or numeric addresses, written in
lower case. Hosts of all other schemes are kept as they are.
-/

namespace XmlSupport.Uri

/-- Characters no domain name may hold. -/
def isForbiddenInName (c : Char) : Bool :=
  c ≤ ' ' || c = '\x7f' || "%#/:<>?@[\\]^|".toList.contains c

def isForbiddenInOther (c : Char) : Bool :=
  c = '\x00' || "\t\n\r #/:<>?@[\\]^|".toList.contains c

def asciiText? (bytes : Bytes) : Option (List Char) :=
  bytes.mapM fun b => if b < 0x80 then some (Char.ofNat b.toNat) else none

def bracketed? (cs : List Char) : Option (List Char) :=
  match cs with
  | '[' :: rest => some rest
  | _ => none

def readIpv6 (inside : List Char) : Except Fault Host :=
  match inside.reverse with
  | ']' :: digits =>
    match ipv6? digits.reverse with
    | some pieces => .ok (.ipv6 pieces)
    | none => .error .invalidIpv6
  | _ => .error .invalidIpv6

def readName (cs : List Char) : Except Fault Host :=
  match asciiText? (percentDecode cs) with
  | none => .error .invalidName
  | some name =>
    let name := name.map Char.toLower
    if name.any isForbiddenInName || ! Label.areValid (splitAtDots name) then
      .error .invalidName
    else if name.isEmpty then .error .emptyHost
    else if endsInNumber name then
      match ipv4? name with
      | some address => .ok (.ipv4 address)
      | none => .error .invalidIpv4
    else .ok (.name (String.ofList name))

/-- The host of a special scheme. -/
def readHost (cs : List Char) : Except Fault Host :=
  match bracketed? cs with
  | some inside => readIpv6 inside
  | none => readName cs

/-- The host of any other scheme. -/
def readOtherHost (cs : List Char) : Except Fault Host :=
  match bracketed? cs with
  | some inside => readIpv6 inside
  | none =>
    if cs.any isForbiddenInOther then .error .invalidHostCharacter
    else .ok (.name (String.ofList (percentEncode isControlByte cs)))

end XmlSupport.Uri
