import XmlSupport.Json.Value
import XmlSupport.Language

/-!
# Client options

Under which name the client appears, and which documents it attaches to: those
of its languages, saved or not.
-/

namespace XmlSupport.Client

/-- Selects documents by language and by the scheme of their URI. -/
structure DocumentFilter where
  language : String
  scheme : String
  deriving DecidableEq, Repr

structure Options where
  id : String
  name : String
  documentSelector : List DocumentFilter
  deriving DecidableEq, Repr

/-- The schemes of saved files and of unsaved buffers. -/
def schemes : List String := ["file", "untitled"]

/-- One filter for each scheme and language. -/
def selector : List DocumentFilter :=
  schemes.flatMap fun scheme => Language.ids.map fun language => ⟨language, scheme⟩

def Options.standard : Options := ⟨"xml", "XML Support", selector⟩

def DocumentFilter.toJson (f : DocumentFilter) : Json :=
  .object [("language", .string f.language), ("scheme", .string f.scheme)]

def selectorJson (selector : List DocumentFilter) : Json :=
  .array (selector.map DocumentFilter.toJson)

def Options.toJson (o : Options) : Json :=
  .object [("id", .string o.id), ("name", .string o.name),
    ("document_selector", selectorJson o.documentSelector)]

end XmlSupport.Client
