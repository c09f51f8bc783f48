import XmlSupport.Log.ValuePattern
import XmlSupport.Log.Verbosity
import XmlSupport.Text.Alphanumeric
import XmlSupport.Text.Blank

/-!
# Directives

A directive gives a level to the entries of a target, in a span, with a field:
`target[span\x7bfield=value\x7d]=level`, where each part may be missing and a
level may stand alone. Blanks around it do not keep it from being read, but they
are not left out: a part is cut from the whole text at the places that it has in
the text without them.
-/

namespace XmlSupport.Log

/-- A field that an entry has to have, and whether its value is tested too. -/
structure FieldTest where
  name : List Char
  hasValue : Bool
  deriving DecidableEq, Repr

structure Directive where
  target : Option (List Char)
  span : Option (List Char)
  field : Option FieldTest
  verbosity : Verbosity
  deriving DecidableEq, Repr

namespace Directive

def mayBegin (c : Char) : Bool := Text.isAlphanumeric c || c = '-' || c = ':' || c = '_'

def trim (cs : List Char) : List Char :=
  ((cs.dropWhile Text.isBlank).reverse.dropWhile Text.isBlank).reverse

def byteCount (cs : List Char) : Nat := cs.foldr (fun c count => c.utf8Size + count) 0

/-- The text behind the first `n` bytes, if these do not end inside a character. -/
def dropBytes? : Nat → List Char → Option (List Char)
  | 0, cs => some cs
  | _ + 1, [] => none
  | n + 1, c :: cs => if c.utf8Size ≤ n + 1 then dropBytes? (n + 1 - c.utf8Size) cs else none

/-- The first `n` bytes of a text, if they do not end inside a character. -/
def takeBytes? : Nat → List Char → Option (List Char)
  | 0, _ => some []
  | _ + 1, [] => none
  | n + 1, c :: cs =>
    if c.utf8Size ≤ n + 1 then (takeBytes? (n + 1 - c.utf8Size) cs).map (c :: ·) else none

/-- The bytes of the text from place `a` up to place `b`. -/
def cut? (text : List Char) (a b : Nat) : Option (List Char) :=
  (dropBytes? a text).bind (takeBytes? (b - a))

/-- The level behind an equals sign; without one everything is logged. -/
def readLevel (text : List Char) (place : Nat) : Option Verbosity := do
  match ← dropBytes? place text with
  | [] => some Verbosity.finest
  | level => Verbosity.parse level

/-- What stands behind the brackets: nothing, or an equals sign and a level. -/
def readEnd (text : List Char) (d : Directive) (place : Nat) : List Char → Option Directive
  | [] => some d
  | '=' :: _ => (readLevel text (place + 1)).map fun v => { d with verbosity := v }
  | _ => none

def readFieldTest (field : List Char) : Option FieldTest :=
  let name := field.takeWhile (· != '=')
  match field.dropWhile (· != '=') with
  | [] => some ⟨name, false⟩
  | _ :: rest => if isValueTest (rest.takeWhile (· != '=')) then some ⟨name, true⟩ else none

/-- The field in braces, and what follows it. -/
def readField (text : List Char) (d : Directive) (place : Nat) (cs : List Char) :
    Option Directive := do
  let field := cs.takeWhile (· != '\x7d')
  let last := place + byteCount field
  match cs.dropWhile (· != '\x7d') with
  | _ :: ']' :: rest =>
    let found ← cut? text place last
    if found.isEmpty then none
    else readEnd text { d with field := some (← readFieldTest found) } (last + 2) rest
  | _ => none

/-- What stands in brackets, and what follows them. -/
def readSpan (text : List Char) (d : Directive) (place : Nat) (cs : List Char) :
    Option Directive := do
  let inSpan (c : Char) : Bool := c != ']' && c != '\x7b'
  let last := place + byteCount (cs.takeWhile inSpan)
  match cs.dropWhile inSpan with
  | ']' :: rest => readEnd text { d with span := some (← cut? text place last) } (last + 1) rest
  | '\x7b' :: rest =>
    let span ← cut? text place last
    readField text { d with span := if span.isEmpty then none else some span } (last + 1) rest
  | _ => none

def all : Directive := ⟨none, none, none, Verbosity.finest⟩

/-- A level, a target, or a target with what follows it. -/
def readTarget (text trimmed : List Char) : Option Directive := do
  let inTarget (c : Char) : Bool := c != '=' && c != '['
  let last := byteCount (trimmed.takeWhile inTarget)
  match trimmed.dropWhile inTarget with
  | [] =>
    match Verbosity.parse text with
    | some v => some { all with verbosity := v }
    | none => some { all with target := some text }
  | '=' :: _ =>
    let target ← cut? text 0 last
    some { all with target := some target, verbosity := ← readLevel text (last + 1) }
  | _ :: rest => readSpan text { all with target := some (← cut? text 0 last) } (last + 1) rest

def parse (text : List Char) : Option Directive :=
  let trimmed := trim text
  match trimmed with
  | [] => none
  | '[' :: rest => readSpan text all 1 rest
  | c :: _ => if mayBegin c then readTarget text trimmed else none

end Directive
end XmlSupport.Log
