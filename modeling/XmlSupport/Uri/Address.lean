/-!
# Numeric host addresses

IPv4 addresses may be written with fewer than four parts and in octal or
hexadecimal; the last part fills the bytes that are left. IPv6 addresses may
leave out one run of zeros and may end in four decimal bytes.
-/

namespace XmlSupport.Uri

def digitIn? (radix : Nat) (c : Char) : Option Nat :=
  let value :=
    if '0' ≤ c ∧ c ≤ '9' then some (c.toNat - 48)
    else if 'a' ≤ c ∧ c ≤ 'z' then some (c.toNat - 87)
    else if 'A' ≤ c ∧ c ≤ 'Z' then some (c.toNat - 55)
    else none
  value.filter (· < radix)

def numberIn? (radix : Nat) (cs : List Char) : Option Nat :=
  (cs.mapM (digitIn? radix)).map (·.foldl (fun n d => n * radix + d) 0)

/-- One part of an IPv4 address. Nothing after a radix mark is zero. -/
def ipv4Part? : List Char → Option Nat
  | [] => none
  | '0' :: 'x' :: rest => numberIn? 16 rest
  | '0' :: 'X' :: rest => numberIn? 16 rest
  | '0' :: d :: rest => numberIn? 8 (d :: rest)
  | cs => numberIn? 10 cs

def splitAtDots : List Char → List (List Char)
  | [] => [[]]
  | c :: rest =>
    match splitAtDots rest with
    | [] => [[c]]
    | part :: parts => if c = '.' then [] :: part :: parts else (c :: part) :: parts

/-- The parts of a host name without the empty one behind a final dot. -/
def hostParts (cs : List Char) : List (List Char) :=
  let parts := splitAtDots cs
  match parts.reverse with
  | [] :: before => before.reverse
  | _ => parts

/-- A host name whose last part is a number has to be an IPv4 address. -/
def endsInNumber (cs : List Char) : Bool :=
  match (hostParts cs).reverse with
  | [] => false
  | last :: _ =>
    (! last.isEmpty && last.all Char.isDigit) || (ipv4Part? last).isSome

/-- The value of the bytes in front of the last part, each in its place. -/
def leadingBytes : List Nat → Nat → Nat
  | [], _ => 0
  | n :: rest, place => n * Nat.pow 256 place + leadingBytes rest (place - 1)

def ipv4? (cs : List Char) : Option Nat := do
  let parts := hostParts cs
  if 4 < parts.length then none
  let numbers ← parts.mapM ipv4Part?
  match numbers.reverse with
  | [] => none
  | last :: before =>
    if before.any (255 < ·) || Nat.pow 256 (4 - before.length) ≤ last then none
    else some (last + leadingBytes before.reverse 3)

def ipv4Text (address : Nat) : String :=
  ".".intercalate ((List.range 4).map fun i => toString (address / Nat.pow 256 (3 - i) % 256))

def isHexDigit (c : Char) : Bool := (digitIn? 16 c).isSome

/-- A decimal byte without a leading zero. -/
def decimalByte? (cs : List Char) : Option Nat :=
  match cs with
  | [] => none
  | ['0'] => some 0
  | '0' :: _ => none
  | _ => (numberIn? 10 cs).filter (· ≤ 255)

/-- The two pieces that four decimal bytes stand for. -/
def embeddedIpv4? (cs : List Char) : Option (List Nat) :=
  match (splitAtDots cs).mapM decimalByte? with
  | some [a, b, c, d] => some [a * 256 + b, c * 256 + d]
  | _ => none

/-- The pieces in front of and behind the left out zeros. -/
structure Pieces where
  before : List Nat
  after : Option (List Nat)

def Pieces.count (p : Pieces) : Nat := p.before.length + (p.after.getD []).length

def Pieces.push (p : Pieces) (piece : Nat) : Pieces :=
  match p.after with
  | none => { p with before := p.before ++ [piece] }
  | some after => { p with after := some (after ++ [piece]) }

/-- How many pieces a gap takes while pieces are counted: at least one. -/
def Pieces.places (p : Pieces) : Nat := p.count + (if p.after.isSome then 1 else 0)

def ipv6Pieces? : Nat → Pieces → List Char → Option Pieces
  | 0, _, _ => none
  | _ + 1, p, [] => some p
  | fuel + 1, p, c :: rest =>
    if 8 ≤ p.places then none
    else if c = ':' then
      if p.after.isSome then none else ipv6Pieces? fuel { p with after := some [] } rest
    else
      let digits := ((c :: rest).take 4).takeWhile isHexDigit
      match (c :: rest).drop digits.length, numberIn? 16 digits with
      | _, none => none
      | [], some n => some (p.push n)
      | '.' :: _, some _ =>
        if digits.isEmpty || 6 < p.places then none
        else (embeddedIpv4? (c :: rest)).map (·.foldl Pieces.push p)
      | ':' :: [], some _ => none
      | ':' :: more, some n => ipv6Pieces? fuel (p.push n) more
      | _, some _ => none

/-- Fills the gap with zeros; without one there have to be eight pieces. -/
def Pieces.fill? (p : Pieces) : Option (List Nat) :=
  match p.after with
  | none => if p.before.length = 8 then some p.before else none
  | some after => some (p.before ++ List.replicate (8 - p.count) 0 ++ after)

/-- The eight pieces of an IPv6 address without its brackets. -/
def ipv6? (cs : List Char) : Option (List Nat) :=
  let start : Pieces := ⟨[], none⟩
  let pieces := match cs with
    | [] => none
    | [_] => none
    | ':' :: ':' :: rest => ipv6Pieces? (cs.length + 1) ⟨[], some []⟩ rest
    | ':' :: _ => none
    | _ => ipv6Pieces? (cs.length + 1) start cs
  pieces.bind Pieces.fill?

/-- The start and the length of the first longest run of zeros. -/
def longestZeros (pieces : List Nat) : Nat × Nat :=
  let runs := (List.range pieces.length).map fun i =>
    (i, ((pieces.drop i).takeWhile (· == 0)).length)
  runs.foldl (fun best run => if best.2 < run.2 then run else best) (0, 0)

def hexText (n : Nat) : String := String.ofList (Nat.toDigits 16 n)

def colonSeparated (pieces : List Nat) : String := ":".intercalate (pieces.map hexText)

/-- The first longest run of at least two zero pieces is left out. -/
def ipv6Text (pieces : List Nat) : String :=
  let (start, length) := longestZeros pieces
  let body :=
    if length < 2 then colonSeparated pieces
    else colonSeparated (pieces.take start) ++ "::" ++ colonSeparated (pieces.drop (start + length))
  "[" ++ body ++ "]"

end XmlSupport.Uri
