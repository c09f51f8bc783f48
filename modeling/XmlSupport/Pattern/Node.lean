import XmlSupport.Text.Blank

/-!
# The parts of a pattern

A pattern is built from classes of characters. Only single characters are
repeated, and a repetition takes as many of them as it can. Groups are numbered
by their opening brackets, from one.
-/

namespace XmlSupport.Pattern

/-- What can stand in a class. -/
inductive Member where
  | one (c : Char)
  | range (first last : Char)
  /-- ASCII letters and digits, and the underscore. -/
  | word
  | digit
  | blank
  deriving DecidableEq, Repr

namespace Member

def isDigit (c : Char) : Bool := '0' ≤ c && c ≤ '9'

def isWord (c : Char) : Bool :=
  ('a' ≤ c && c ≤ 'z') || ('A' ≤ c && c ≤ 'Z') || isDigit c || c = '_'

def holds : Member → Char → Bool
  | .one d, c => c = d
  | .range first last, c => first ≤ c && c ≤ last
  | .word, c => isWord c
  | .digit, c => isDigit c
  | .blank, c => Text.isBlank c

/-- The two cases of an ASCII letter are the same where case is ignored. Other
characters have no second case. -/
def covers (ignoresCase : Bool) (m : Member) (c : Char) : Bool :=
  m.holds c || (ignoresCase && (m.holds c.toUpper || m.holds c.toLower))

end Member

/-- The characters that its members cover, or all others. -/
structure CharClass where
  excludes : Bool
  members : List Member
  deriving DecidableEq, Repr

namespace CharClass

def of (m : Member) : CharClass := ⟨false, [m]⟩

def add (k : CharClass) (m : Member) : CharClass := { k with members := k.members ++ [m] }

/-- What a dot stands for: all but the ends of lines. -/
def dot : CharClass := ⟨true, [.one '\n', .one '\r', .one '\u2028', .one '\u2029']⟩

def admits (ignoresCase : Bool) (k : CharClass) (c : Char) : Bool :=
  k.members.any (·.covers ignoresCase c) != k.excludes

end CharClass

inductive Node where
  | empty
  | one (k : CharClass)
  | many (k : CharClass)
  | group (index : Nat) (body : Node)
  /-- The text that a group has taken. -/
  | reference (index : Nat)
  | both (first second : Node)
  /-- The second is tried where the first leads nowhere. -/
  | either (first second : Node)
  /-- Whether the text ahead matches, none of it being taken. -/
  | ahead (expected : Bool) (body : Node)
  | wordBoundary
  | start
  | finish
  deriving DecidableEq, Repr

end XmlSupport.Pattern
