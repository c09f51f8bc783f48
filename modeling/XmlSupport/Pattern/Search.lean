import XmlSupport.Pattern.Reader

/-!
# Searching with patterns

A part of a pattern is tried at a place in a text. It may match there in
several ways; they are listed in the order in which a search tries them. The
parts behind it are tried after each of these in turn, so that a pattern
matches if there is any way through all its parts. A look-ahead keeps the first
way it finds.
-/

namespace XmlSupport.Pattern

/-- A place in a text, and what the groups have taken on the way there. -/
structure Cursor where
  /-- What precedes the place, the nearest character first. -/
  front : List Char
  back : List Char
  groups : List (Nat × List Char)
  deriving DecidableEq, Repr

namespace Cursor

/-- The places of a text from a given one on, with nothing taken yet. -/
def onwards (front : List Char) : List Char → List Cursor
  | [] => [⟨front, [], []⟩]
  | c :: back => ⟨front, c :: back, []⟩ :: onwards (c :: front) back

def starts (text : List Char) : List Cursor := onwards [] text

/-- The places that a run of characters can lead to, the farthest first. -/
def reach (admits : Char → Bool) (groups : List (Nat × List Char)) (front : List Char) :
    List Char → List Cursor
  | [] => [⟨front, [], groups⟩]
  | c :: back =>
    if admits c then reach admits groups (c :: front) back ++ [⟨front, c :: back, groups⟩]
    else [⟨front, c :: back, groups⟩]

/-- Whether a word begins or ends here. -/
def isAtWordBoundary (s : Cursor) : Bool :=
  s.front.head?.any Member.isWord != s.back.head?.any Member.isWord

/-- The text between two places, the second of which lies behind the first. -/
def textTo (s t : Cursor) : List Char := s.back.take (s.back.length - t.back.length)

def capture (s t : Cursor) (index : Nat) : Cursor :=
  { t with groups := (index, s.textTo t) :: t.groups }

def isSame (ignoresCase : Bool) (c d : Char) : Bool :=
  c = d || (ignoresCase && c.toUpper = d.toUpper)

/-- The place behind a given text, if that is what comes next. -/
def skip? (ignoresCase : Bool) (s : Cursor) : List Char → Option Cursor
  | [] => some s
  | c :: text =>
    match s.back with
    | [] => none
    | d :: back =>
      if isSame ignoresCase c d then skip? ignoresCase ⟨d :: s.front, back, s.groups⟩ text else none

end Cursor

/-- The ways in which a part matches, in the order in which they are tried. -/
def Node.matches (ignoresCase : Bool) : Node → Cursor → List Cursor
  | .empty, s => [s]
  | .one k, s =>
    match s.back with
    | [] => []
    | c :: back => if k.admits ignoresCase c then [⟨c :: s.front, back, s.groups⟩] else []
  | .many k, s => Cursor.reach (k.admits ignoresCase) s.groups s.front s.back
  | .group index body, s => (body.matches ignoresCase s).map fun t => s.capture t index
  | .reference index, s => (s.skip? ignoresCase ((s.groups.lookup index).getD [])).toList
  | .both first second, s => (first.matches ignoresCase s).flatMap (second.matches ignoresCase)
  | .either first second, s => first.matches ignoresCase s ++ second.matches ignoresCase s
  | .ahead expected body, s =>
    match expected, body.matches ignoresCase s with
    | true, t :: _ => [{ s with groups := t.groups }]
    | false, [] => [s]
    | _, _ => []
  | .wordBoundary, s => if s.isAtWordBoundary then [s] else []
  | .start, s => if s.front.isEmpty then [s] else []
  | .finish, s => if s.back.isEmpty then [s] else []

/-- Whether the pattern matches from some place of a text on. -/
def isFoundIn (p : Pattern) (text : List Char) : Bool :=
  match p.node? with
  | some n => (Cursor.starts text).any fun s => !(n.matches p.ignoresCase s).isEmpty
  | none => false

end XmlSupport.Pattern
