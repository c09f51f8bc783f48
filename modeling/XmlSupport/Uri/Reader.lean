import XmlSupport.Uri.Host
import XmlSupport.Uri.Path

/-!
# Reading a URI

A text is trimmed and cut at its first number sign and question mark. What is
left is scheme, authority and path, with rules for files, for the web schemes
and for all others. Line breaks and tabs are left out of each part; the path of
a file has to see them first.
-/

namespace XmlSupport.Uri

/-- The text in front of the first `mark` and the text behind it, if there is one. -/
def cutAt (mark : Char) (cs : List Char) : List Char × Option (List Char) :=
  match cs.dropWhile (· ≠ mark) with
  | [] => (cs, none)
  | _ :: rest => (cs.takeWhile (· ≠ mark), some rest)

/-- The text in front of the last at sign, if there is one, and the text behind it. -/
def cutAtLastAt (cs : List Char) : Option (List Char) × List Char :=
  if cs.contains '@' then
    let tail := (cs.reverse.takeWhile (· ≠ '@')).reverse
    (some (cs.take (cs.length - tail.length - 1)), tail)
  else (none, cs)

/-- User name and password in percent form; an empty password is left out. -/
def readUserInfo (cs : List Char) : Option String :=
  let (user, password) := cutAt ':' cs
  let user := percentEncode inUserInfo user
  let info := match password with
    | none => user
    | some [] => user
    | some p => user ++ ':' :: percentEncode inUserInfo p
  if info.isEmpty then none else some (String.ofList info)

/-- The host in front of a colon outside of brackets, and the rest. -/
def splitHost : Bool → List Char → List Char × List Char
  | _, [] => ([], [])
  | inside, c :: rest =>
    if c = ':' ∧ ¬ inside then ([], c :: rest)
    else
      let inside := if c = '[' then true else if c = ']' then false else inside
      let (host, after) := splitHost inside rest
      (c :: host, after)

/-- The digits of a port, and what follows a backslash behind them. -/
def readPort : Nat → List Char → Except Fault (Nat × List Char)
  | n, [] => .ok (n, [])
  | n, c :: rest =>
    if c.isDigit then
      let n := n * 10 + (c.toNat - 48)
      if 65535 < n then .error .invalidPort else readPort n rest
    else if c = '\\' then .ok (n, c :: rest)
    else .error .invalidPort

/-- The port if it is written and not the scheme's own. -/
def readPort? (scheme : String) (cs : List Char) : Except Fault (Option Nat × List Char) := do
  let (n, rest) ← readPort 0 cs
  if rest.length = cs.length || defaultPort? scheme = some n then return (none, rest)
  else return (some n, rest)

/-- Host and port; text that belongs to the path comes back. -/
def readHostAndPort (scheme : String) (kind : SchemeKind) (cs : List Char) :
    Except Fault (Host × Option Nat × List Char) := do
  let (hostText, rest) := splitHost false cs
  if hostText.isEmpty && (kind.isSpecial || ! rest.isEmpty) then
    throw .emptyHost
  let host ← if kind.isSpecial then readHost hostText else readOtherHost hostText
  match rest with
  | [] => return (host, none, [])
  | _ :: digits =>
    let (port, rest) ← readPort? scheme digits
    return (host, port, rest)

/-- The authority; `followed` tells whether anything stands behind it. -/
def readAuthority (scheme : String) (kind : SchemeKind) (followed : Bool) (cs : List Char) :
    Except Fault (Authority × List Char) := do
  let (user, rest) := cutAtLastAt cs
  if user = some [] && rest.isEmpty && followed then
    throw .emptyHost
  let userInfo := user.bind readUserInfo
  let (host, port, rest) ← readHostAndPort scheme kind rest
  if userInfo.isSome && host = .name "" then
    throw .emptyHost
  return (⟨userInfo, host, port⟩, rest)

/-- What stands behind a slash at the beginning, if there is one. -/
def afterSlash? (kind : SchemeKind) (cs : List Char) : Option (List Char) :=
  match cs.dropWhile isIgnored with
  | [] => none
  | c :: rest => if isSlash kind c then some rest else none

/-- A text without the slash in front of it. -/
def dropSlash (kind : SchemeKind) (cs : List Char) : List Char := (afterSlash? kind cs).getD cs

def noHost : Authority := ⟨none, .name "", none⟩

/-- Host and path of a file behind two slashes. A drive letter takes the place of the host. -/
def readFileHost (cs : List Char) : Except Fault (Authority × Path) := do
  let hostText := visible (cs.takeWhile (! isSlash .file ·))
  let after := cs.dropWhile (! isSlash .file ·)
  if isDriveLetter hostText then
    return (noHost, .segments (readSegments .file cs).1)
  else if hostText.isEmpty then
    return (noHost, .segments (readSegments .file after).1)
  else
    let host ← readHost hostText
    if host = .name "localhost" then
      return (noHost, .segments (readSegments .file after).1)
    else
      let (segments, drive) := readSegments .file (dropSlash .file after)
      return (if drive then noHost else ⟨none, host, none⟩, .segments segments)

/-- Host and path of a file. -/
def readFile (cs : List Char) : Except Fault (Authority × Path) :=
  match (afterSlash? .file cs).bind (afterSlash? .file) with
  | some rest => readFileHost rest
  | none => .ok (noHost, .segments (readSegments .file (dropSlash .file cs)).1)

/-- Authority and path of a web scheme, whatever the number of slashes in front. -/
def readWeb (scheme : String) (followed : Bool) (cs : List Char) :
    Except Fault (Authority × Path) := do
  let cs := cs.dropWhile (isSlash .web)
  let path := cs.dropWhile (! isSlash .web ·)
  let (authority, _) ← readAuthority scheme .web (followed || ! path.isEmpty)
    (cs.takeWhile (! isSlash .web ·))
  return (authority, .segments (readSegments .web (dropSlash .web path)).1)

/-- Authority and path of any other scheme; without a slash the path has no structure. -/
def readOther (scheme : String) (followed : Bool) (cs : List Char) :
    Except Fault (Option Authority × Path) := do
  match cs with
  | '/' :: '/' :: rest =>
    let path := rest.dropWhile (! isSlash .other ·)
    let (authority, more) ← readAuthority scheme .other (followed || ! path.isEmpty)
      (rest.takeWhile (! isSlash .other ·))
    let path := more ++ path
    if path.isEmpty then return (some authority, .segments [])
    else return (some authority, .segments (readSegments .other (dropSlash .other path)).1)
  | '/' :: rest => return (none, .segments (readSegments .other rest).1)
  | _ => return (none, .unstructured (String.ofList (percentEncode isControlByte cs)))

def readBody (scheme : String) (followed : Bool) (cs : List Char) :
    Except Fault (Option Authority × Path) :=
  match SchemeKind.of scheme with
  | .file => (readFile cs).map fun (a, p) => (some a, p)
  | .web => (readWeb scheme followed (visible cs)).map fun (a, p) => (some a, p)
  | .other => readOther scheme followed (visible cs)

def queryEncoded (scheme : String) : UInt8 → Bool :=
  if (SchemeKind.of scheme).isSpecial then inSpecialQuery else inQuery

/-- The URI that a text names. -/
def parse (s : String) : Except Fault Uri :=
  match splitScheme? (trim s.toList) with
  | none => .error .noBase
  | some (scheme, rest) =>
    let (rest, fragment) := cutAt '#' rest
    let (body, query) := cutAt '?' rest
    match readBody scheme (fragment.isSome || query.isSome) body with
    | .error fault => .error fault
    | .ok (authority, path) =>
      .ok {
        scheme, authority, path
        query := query.map fun q => String.ofList (percentEncode (queryEncoded scheme) (visible q))
        fragment := fragment.map fun f => String.ofList (percentEncode inFragment (visible f)) }

end XmlSupport.Uri
