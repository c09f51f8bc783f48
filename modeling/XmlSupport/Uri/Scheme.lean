import XmlSupport.Uri.Visible

/-!
# Schemes

A few schemes have rules of their own: their paths are always structured, a
backslash counts as a slash, and a port that is the scheme's own is left out.
-/

namespace XmlSupport.Uri

inductive SchemeKind where
  | file
  | web
  | other
  deriving DecidableEq, Repr

def SchemeKind.of (scheme : String) : SchemeKind :=
  if scheme = "file" then .file
  else if ["http", "https", "ws", "wss", "ftp"].contains scheme then .web
  else .other

def SchemeKind.isSpecial : SchemeKind → Bool
  | .other => false
  | _ => true

def defaultPort? (scheme : String) : Option Nat :=
  [("http", 80), ("https", 443), ("ws", 80), ("wss", 443), ("ftp", 21)].lookup scheme

def isSchemeChar (c : Char) : Bool := c.isAlphanum || c = '+' || c = '-' || c = '.'

/-- The scheme in lower case and what stands behind its colon. -/
def splitScheme? (cs : List Char) : Option (String × List Char) :=
  match cs with
  | [] => none
  | first :: _ =>
    let inName (c : Char) : Bool := isSchemeChar c || isIgnored c
    let name := visible (cs.takeWhile inName)
    match cs.dropWhile inName with
    | ':' :: rest =>
      if first.isAlpha then some (String.ofList (name.map Char.toLower), rest) else none
    | _ => none

def isSlash (kind : SchemeKind) (c : Char) : Bool := c = '/' || (kind.isSpecial && c = '\\')

end XmlSupport.Uri
