import XmlSupport.Uri.Address

/-!
# URIs and their normal form

A parsed URI and the one text it is written as. Equal documents are named by
equal texts, so the client compares and sends only these.
-/

namespace XmlSupport

namespace Uri

inductive Host where
  | name (text : String)
  | ipv4 (address : Nat)
  | ipv6 (pieces : List Nat)
  deriving DecidableEq, Repr

def Host.text : Host → String
  | .name s => s
  | .ipv4 address => ipv4Text address
  | .ipv6 pieces => ipv6Text pieces

structure Authority where
  /-- User name and password in percent form. -/
  userInfo : Option String
  host : Host
  port : Option Nat
  deriving DecidableEq, Repr

/-- A path is a list of segments, or text that has no structure. -/
inductive Path where
  | unstructured (text : String)
  | segments (parts : List String)
  deriving DecidableEq, Repr

def Authority.text (a : Authority) : String :=
  let user := match a.userInfo with
    | none => ""
    | some s => s ++ "@"
  let port := match a.port with
    | none => ""
    | some n => ":" ++ toString n
  "//" ++ user ++ a.host.text ++ port

def Path.text : Path → String
  | .unstructured s => s
  | .segments [] => ""
  | .segments parts => "/" ++ "/".intercalate parts

/-- A path that would be taken for an authority gets a dot segment in front. -/
def Path.guard : Path → String
  | .segments ("" :: _ :: _) => "/."
  | _ => ""

/-- Why a text names no document. -/
inductive Fault where
  | noBase
  | emptyHost
  | invalidPort
  | invalidIpv4
  | invalidIpv6
  | invalidName
  | invalidHostCharacter
  deriving DecidableEq, Repr

def Fault.message : Fault → String
  | .noBase => "relative URL without a base"
  | .emptyHost => "empty host"
  | .invalidPort => "invalid port number"
  | .invalidIpv4 => "invalid IPv4 address"
  | .invalidIpv6 => "invalid IPv6 address"
  | .invalidName => "invalid international domain name"
  | .invalidHostCharacter => "invalid domain character"

end Uri

structure Uri where
  scheme : String
  authority : Option Uri.Authority
  path : Uri.Path
  query : Option String
  fragment : Option String
  deriving DecidableEq, Repr

namespace Uri

def marked (mark : String) : Option String → String
  | none => ""
  | some s => mark ++ s

def text (u : Uri) : String :=
  let front := match u.authority with
    | some a => a.text
    | none => u.path.guard
  u.scheme ++ ":" ++ front ++ u.path.text ++ marked "?" u.query ++ marked "#" u.fragment

end Uri
end XmlSupport
