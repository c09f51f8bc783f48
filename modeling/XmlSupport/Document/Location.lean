import XmlSupport.Document.Position
import XmlSupport.Uri.Basic

/-!
# Locations and reference queries
-/

namespace XmlSupport.Document

structure Range where
  start : Position
  stop : Position
  deriving DecidableEq, Repr

structure Location where
  uri : Uri
  range : Range
  deriving DecidableEq, Repr

/-- Asks a server for all places that refer to what stands at a position. -/
structure ReferenceQuery where
  document : Uri
  position : Position
  includeDeclaration : Bool
  deriving DecidableEq, Repr

def Range.encode (r : Range) : Json :=
  .object [("end", r.stop.encode), ("start", r.start.encode)]

def Location.encode (l : Location) : Json :=
  .object [("range", l.range.encode), ("uri", .string l.uri.text)]

def ReferenceQuery.encode (q : ReferenceQuery) : Json :=
  .object [("context", .object [("includeDeclaration", .bool q.includeDeclaration)]),
    ("position", q.position.encode),
    ("textDocument", .object [("uri", .string q.document.text)])]

end XmlSupport.Document
