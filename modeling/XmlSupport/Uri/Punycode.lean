/-!
# Labels in ASCII form

A domain label of other characters is written as its ASCII letters, a hyphen,
and the places and numbers of the others as a sequence of variable-length
numbers in base 36.
-/

namespace XmlSupport.Uri.Punycode

def digitValue? (c : Char) : Option Nat :=
  if 'a' ≤ c ∧ c ≤ 'z' then some (c.toNat - 97)
  else if '0' ≤ c ∧ c ≤ '9' then some (c.toNat - 22)
  else none

/-- The least digit that does not end a number, at the place counted by `k`. -/
def threshold (k bias : Nat) : Nat :=
  if k ≤ bias then 1 else if bias + 26 ≤ k then 26 else k - bias

def divideDown : Nat → Nat → Nat → Nat × Nat
  | 0, delta, k => (delta, k)
  | fuel + 1, delta, k => if 455 < delta then divideDown fuel (delta / 35) (k + 36) else (delta, k)

/-- The bias for the next number, from the last one. -/
def adapt (delta points : Nat) (first : Bool) : Nat :=
  let delta := if first then delta / 700 else delta / 2
  let (delta, k) := divideDown delta (delta + delta / points) 0
  k + 36 * delta / (delta + 38)

/-- One variable-length number, the least digit first. -/
def readNumber (bias : Nat) : List Char → Nat → Nat → Nat → Option (Nat × List Char)
  | [], _, _, _ => none
  | c :: rest, k, weight, sum =>
    match digitValue? c with
    | none => none
    | some d =>
      let t := threshold k bias
      if d < t then some (sum + d * weight, rest)
      else readNumber bias rest (k + 36) (weight * (36 - t)) (sum + d * weight)

/-- Decodes the numbers into code points at their places. -/
def decodeNumbers : Nat → Bool → List Nat → Nat → Nat → Nat → List Char → Option (List Nat)
  | _, _, points, _, _, _, [] => some points
  | 0, _, _, _, _, _, _ => none
  | fuel + 1, first, points, n, i, bias, cs =>
    match readNumber bias cs 36 1 0 with
    | none => none
    | some (delta, rest) =>
      let length := points.length + 1
      let i := i + delta
      let n := n + i / length
      if 0x10FFFF < n then none
      else
        let place := i % length
        decodeNumbers fuel false (points.take place ++ n :: points.drop place) n (place + 1)
          (adapt delta length first) rest

/-- The ASCII letters and the text behind the last hyphen. -/
def splitBasic (cs : List Char) : List Char × List Char :=
  if cs.contains '-' then
    let tail := (cs.reverse.takeWhile (· ≠ '-')).reverse
    (cs.take (cs.length - tail.length - 1), tail)
  else ([], cs)

/-- The code points that a form without its mark stands for; some of them are past ASCII. -/
def decode? (form : List Char) : Option (List Nat) :=
  let (basic, tail) := splitBasic form
  if 2000 < form.length then none
  else
    (decodeNumbers (tail.length + 1) true (basic.map Char.toNat) 128 0 72 tail).filter fun points =>
      points.any (0x80 ≤ ·) && points.all fun n => n < 0xD800 || 0xDFFF < n

end XmlSupport.Uri.Punycode
