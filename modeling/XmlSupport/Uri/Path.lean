import XmlSupport.Uri.Basic
import XmlSupport.Uri.Percent
import XmlSupport.Uri.Scheme

/-!
# Structured paths

Dot segments are carried out while the segments are read: one dot stands for
nothing and two dots for one segment less. A drive letter is never given up
that way, and the first segment of a file path spells its drive with a colon.
An ignored character behind a drive and its colon divides the first segment of
a file path, so that the drive stands alone.
-/

namespace XmlSupport.Uri

def isDriveLetter : List Char → Bool
  | [a, b] => a.isAlpha && (b = ':' || b = '|')
  | _ => false

/-- Whether a segment is a drive letter, or has one in front of a backslash. -/
def beginsWithDrive : List Char → Bool
  | a :: b :: rest => isDriveLetter [a, b] && (rest.isEmpty || rest.head? = some '\\')
  | _ => false

/-- The drive and the text behind it, where an ignored character divides them. -/
def cutDrive? (segment : List Char) : Option (Char × List Char) :=
  match segment.dropWhile isIgnored with
  | [] => none
  | a :: rest =>
    match rest.dropWhile isIgnored with
    | ':' :: b :: more =>
      let more := visible more
      if a.isAlpha && isIgnored b && ! more.isEmpty then some (a, more) else none
    | _ => none

def isOneDot (segment : List Char) : Bool :=
  [".", "%2e"].contains (String.ofList (segment.map Char.toLower))

def isTwoDots (segment : List Char) : Bool :=
  ["..", ".%2e", "%2e.", "%2e%2e"].contains (String.ofList (segment.map Char.toLower))

def splitAtSlashes (kind : SchemeKind) : List Char → List (List Char)
  | [] => [[]]
  | c :: rest =>
    match splitAtSlashes kind rest with
    | [] => [[c]]
    | part :: parts => if isSlash kind c then [] :: part :: parts else (c :: part) :: parts

/-- A path under construction: its finished segments, the last one first, and
whether a drive letter has taken the place of the host. -/
structure Draft where
  done : List (List Char)
  drive : Bool

/-- One segment less, but for a drive letter. -/
def Draft.pop (d : Draft) : Draft :=
  match d.done with
  | [] => d
  | last :: before => if beginsWithDrive last then d else { d with done := before }

def Draft.push (kind : SchemeKind) (d : Draft) (segment : List Char) : Draft :=
  match kind, d.done, segment with
  | .file, [], a :: _ =>
    if isDriveLetter segment then ⟨[[a, ':']], true⟩
    else { d with done := percentEncode inPath segment :: d.done }
  | _, _, _ => { d with done := percentEncode inPath segment :: d.done }

/-- The segment behind a divided drive is taken as it stands. Dot segments at the end leave an empty
last segment behind. -/
def Draft.add (kind : SchemeKind) (d : Draft) (segment : List Char) (isLast : Bool) : Draft :=
  let close (d : Draft) : Draft := if isLast then { d with done := [] :: d.done } else d
  match kind, d.done, cutDrive? segment with
  | .file, [], some (a, rest) => { d with done := [percentEncode inPath rest, [a, ':']] }
  | _, _, _ =>
    let segment := visible segment
    if isTwoDots segment then close d.pop
    else if isOneDot segment then close d
    else d.push kind segment

def Draft.addAll (kind : SchemeKind) (d : Draft) : List (List Char) → Draft
  | [] => d
  | [segment] => d.add kind segment true
  | segment :: rest => (d.add kind segment false).addAll kind rest

/-- Empty segments in front of a file path are dropped. -/
def dropLeadingEmpty (segments : List (List Char)) : List (List Char) :=
  match segments.dropWhile List.isEmpty with
  | [] => [[]]
  | rest => rest

/-- The segments behind the first slash of a path, and whether they begin with a drive letter. -/
def readSegments (kind : SchemeKind) (cs : List Char) : List String × Bool :=
  let draft := Draft.addAll kind ⟨[], false⟩ (splitAtSlashes kind cs)
  let segments := draft.done.reverse
  let segments := if kind = .file then dropLeadingEmpty segments else segments
  (segments.map String.ofList, draft.drive)

end XmlSupport.Uri
