import XmlSupport.Shell.Text

/-!
# Wildcards

Patterns of file names, of choices and of trimmed parameters. A star stands for
any text, a question mark for one character, and square brackets for one
character of a set, unless they are quoted.
-/

namespace XmlSupport.Shell

/-- A character of an expanded word, and whether it may be part of a pattern. -/
structure Symbol where
  char : Char
  isActive : Bool
  deriving DecidableEq, Repr

namespace Symbol

def texts (symbols : List Symbol) : Text := symbols.map (·.char)

end Symbol

namespace Wildcard

inductive Item where
  | any
  | one
  | char (c : Char)
  | set (isNegated : Bool) (members : List (Char × Char)) (classes : List Text)
  deriving DecidableEq, Repr

/-- The name of a class behind its opening bracket and colon. -/
def className? (symbols : List Symbol) : Option (Text × List Symbol) :=
  let name := symbols.takeWhile fun s => s.char.isAlpha
  match symbols.drop name.length with
  | ⟨':', _⟩ :: ⟨']', _⟩ :: rest => some (Symbol.texts name, rest)
  | _ => none

/-- The members of a set up to its closing bracket. -/
def readMembers : Nat → Bool → List Symbol →
    Option (List (Char × Char) × List Text × List Symbol)
  | 0, _, _ => none
  | _, _, [] => none
  | fuel + 1, isFirst, s :: rest =>
    if s.char = ']' && s.isActive && !isFirst then some ([], [], rest)
    else
      let single (rest : List Symbol) :=
        match rest with
        | ⟨'-', true⟩ :: last :: more =>
          if last.char = ']' && last.isActive then
            (readMembers fuel false rest).map fun (m, k, r) => ((s.char, s.char) :: m, k, r)
          else (readMembers fuel false more).map fun (m, k, r) => ((s.char, last.char) :: m, k, r)
        | rest => (readMembers fuel false rest).map fun (m, k, r) => ((s.char, s.char) :: m, k, r)
      match s.char, rest with
      | '[', ⟨':', _⟩ :: more =>
        match className? more with
        | some (name, rest) =>
          (readMembers fuel false rest).map fun (m, k, r) => (m, name :: k, r)
        | none => single rest
      | _, _ => single rest

def readSet (symbols : List Symbol) : Option (Item × List Symbol) :=
  let (isNegated, members) := match symbols with
    | ⟨'!', true⟩ :: rest => (true, rest)
    | ⟨'^', true⟩ :: rest => (true, rest)
    | rest => (false, rest)
  (readMembers (members.length + 1) true members).map fun (m, k, r) => (.set isNegated m k, r)

def readItems : Nat → List Symbol → List Item
  | 0, _ => []
  | _, [] => []
  | fuel + 1, s :: rest =>
    if !s.isActive then .char s.char :: readItems fuel rest
    else if s.char = '*' then .any :: readItems fuel rest
    else if s.char = '?' then .one :: readItems fuel rest
    else if s.char = '[' then
      match readSet rest with
      | some (item, rest) => item :: readItems fuel rest
      | none => .char '[' :: readItems fuel rest
    else .char s.char :: readItems fuel rest

def items (symbols : List Symbol) : List Item := readItems (symbols.length + 1) symbols

def isBlankByte (c : Char) : Bool := c = ' ' || ('\t' ≤ c && c ≤ '\r')

def isPrintable (c : Char) : Bool := '!' ≤ c && c ≤ '~'

def isInClass (c : Char) (name : Text) : Bool :=
  match String.ofList name with
  | "alpha" => c.isAlpha
  | "digit" => c.isDigit
  | "alnum" => c.isAlphanum
  | "upper" => c.isUpper
  | "lower" => c.isLower
  | "space" => isBlankByte c
  | "blank" => c = ' ' || c = '\t'
  | "punct" => isPrintable c && !c.isAlphanum
  | "graph" => isPrintable c
  | "print" => isPrintable c || c = ' '
  | "cntrl" => c < ' ' || c = '\x7f'
  | "xdigit" => c.isDigit || ('a' ≤ c && c ≤ 'f') || ('A' ≤ c && c ≤ 'F')
  | _ => false

def Item.holds (item : Item) (c : Char) : Bool :=
  match item with
  | .any => true
  | .one => true
  | .char d => c = d
  | .set isNegated members classes =>
    (members.any (fun (a, b) => a ≤ c && c ≤ b) || classes.any (isInClass c)) != isNegated

def matchItems : List Item → Text → Bool
  | [], text => text.isEmpty
  | .any :: rest, [] => matchItems rest []
  | .any :: rest, c :: text => matchItems rest (c :: text) || matchItems (.any :: rest) text
  | _ :: _, [] => false
  | item :: rest, c :: text => item.holds c && matchItems rest text
termination_by items text => items.length + text.length

/-- Whether a pattern stands for a text as a whole. -/
def covers (pattern : List Symbol) (text : Text) : Bool := matchItems (items pattern) text

/-- Whether a word is a pattern at all. -/
def isPattern (symbols : List Symbol) : Bool :=
  symbols.any fun s => s.isActive && (s.char = '*' || s.char = '?' || s.char = '[')

/-- Takes away the shortest or the longest part in front that the pattern covers. -/
def trimFront (takesMost : Bool) (pattern : List Symbol) (text : Text) : Text :=
  let lengths := List.range (text.length + 1)
  match (if takesMost then lengths.reverse else lengths).find? fun n =>
    covers pattern (text.take n) with
  | some n => text.drop n
  | none => text

/-- Takes away the shortest or the longest part behind that the pattern covers. -/
def trimBack (takesMost : Bool) (pattern : List Symbol) (text : Text) : Text :=
  let lengths := List.range (text.length + 1)
  match (if takesMost then lengths else lengths.reverse).find? fun n =>
    covers pattern (text.drop n) with
  | some n => text.take n
  | none => text

end Wildcard
end XmlSupport.Shell
