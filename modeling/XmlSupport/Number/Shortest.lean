import XmlSupport.Number.Binary64

/-!
# The shortest decimal text of a binary number

Of the decimal numbers that round to a given binary number, `shortest` takes
one with the fewest digits, and among those the nearest. `Layout` says how its
digits are set: in place for middling exponents, with an exponent elsewhere.
-/

namespace XmlSupport

/-- The number `digits * 10^exponent`. -/
structure Decimal where
  digits : Nat
  exponent : Int
  deriving DecidableEq, Repr

namespace Binary64

/-- The reals that round to a number, in quarters of its last place, and
whether the two ends belong to it. -/
structure Interval where
  low : Nat
  middle : Nat
  high : Nat
  closed : Bool

def interval (x : Binary64) : Interval where
  low := if x.significand = leastFull ∧ minExponent < x.exponent
    then 4 * x.significand - 1 else 4 * x.significand - 2
  middle := 4 * x.significand
  high := 4 * x.significand + 2
  closed := x.significand % 2 == 0

def digitCount (n : Nat) : Nat := (Nat.toDigits 10 n).length

/-- The exponent of the leading decimal digit of `num / den`. -/
def leadingExponent (num den : Nat) : Int :=
  if den ≤ num then (digitCount (num / den) : Int) - 1
  else -(digitCount ((den + num - 1) / num - 1) : Int)

/-- Compares `c * 10^p` with `n * 2^e`, both scaled to natural numbers. -/
def scaledPair (c : Nat) (p : Int) (n : Nat) (e : Int) : Nat × Nat :=
  let left := if 0 ≤ p then c * Nat.pow 10 p.toNat else c
  let right := if 0 ≤ p then n else n * Nat.pow 10 (-p).toNat
  if 0 ≤ e then (left, right * Nat.pow 2 e.toNat) else (left * Nat.pow 2 (-e).toNat, right)

def Interval.contains (i : Interval) (e : Int) (c : Nat) (p : Int) : Bool :=
  let (l, lo) := scaledPair c p i.low e
  let (h, hi) := scaledPair c p i.high e
  if i.closed then lo ≤ l && h ≤ hi else lo < l && h < hi

/-- The distance of `c * 10^p` from the middle, up to a factor that depends on `p` alone. -/
def Interval.distance (i : Interval) (e : Int) (c : Nat) (p : Int) : Nat :=
  let (l, m) := scaledPair c p i.middle e
  if l ≤ m then m - l else l - m

/-- The neighbours of the number on the grid of multiples of `10^p`. -/
def neighbours (i : Interval) (e p : Int) : Nat × Nat :=
  let (unit, m) := scaledPair 1 p i.middle e
  (m / unit, m / unit + 1)

/-- The better one of two neighbours on the grid `10^p`, if one of them rounds to the number. -/
def onGrid (i : Interval) (e p : Int) : Option Nat :=
  let (a, b) := neighbours i e p
  match i.contains e a p, i.contains e b p with
  | true, true =>
    let da := i.distance e a p
    let db := i.distance e b p
    some (if da < db then a else if db < da then b else if a % 2 = 0 then a else b)
  | true, false => some a
  | false, true => some b
  | false, false => none

/-- Tries finer and finer grids; the seventeenth digit always settles it. -/
def search (i : Interval) (e p : Int) : Nat → Decimal
  | 0 => ⟨(neighbours i e p).1, p⟩
  | fuel + 1 =>
    match onGrid i e p with
    | some c => ⟨c, p⟩
    | none => search i e (p - 1) fuel

def trimZeros : Nat → Decimal → Decimal
  | 0, d => d
  | fuel + 1, d =>
    if d.digits ≠ 0 ∧ d.digits % 10 = 0 then trimZeros fuel ⟨d.digits / 10, d.exponent + 1⟩ else d

/-- The decimal number with the fewest digits that rounds to the absolute value of `x`. -/
def shortest (x : Binary64) : Decimal :=
  if x.significand = 0 then ⟨0, 0⟩
  else
    let (num, den) := x.quotient
    trimZeros 20 (search x.interval (x.exponent - 2) (leadingExponent num den) 17)

end Binary64

/-- How the digits of a decimal number are set. -/
structure Layout where
  /-- The least exponent of the leading digit that is still set in place. -/
  least : Int
  /-- The greatest exponent of the leading digit that is still set in place. -/
  greatest : Int

namespace Layout

def zeros (n : Nat) : List Char := List.replicate n '0'

def inPlace (digits : List Char) (lead : Int) : List Char :=
  if lead < 0 then '0' :: '.' :: zeros (-lead - 1).toNat ++ digits
  else
    let whole := lead.toNat + 1
    if digits.length ≤ whole then digits ++ zeros (whole - digits.length) ++ ['.', '0']
    else digits.take whole ++ '.' :: digits.drop whole

def withExponent (digits : List Char) (lead : Int) : List Char :=
  let mantissa := match digits with
    | [] => []
    | [d] => [d]
    | d :: rest => d :: '.' :: rest
  mantissa ++ 'e' :: (if lead < 0 then '-' else '+') :: Nat.toDigits 10 lead.natAbs

def render (layout : Layout) (negative : Bool) (d : Decimal) : List Char :=
  let digits := Nat.toDigits 10 d.digits
  let lead := d.exponent + digits.length - 1
  let body :=
    if layout.least ≤ lead ∧ lead ≤ layout.greatest then inPlace digits lead
    else withExponent digits lead
  if negative then '-' :: body else body

end Layout
end XmlSupport
