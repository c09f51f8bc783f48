import XmlSupport.Json.Value

/-!
# Patterns

A pattern as the editor takes it: a text in the editor's pattern language, and
the flags under which it is read.
-/

namespace XmlSupport

structure Pattern where
  source : String
  flags : Option String
  deriving DecidableEq, Repr

namespace Pattern

def plain (source : String) : Pattern := ⟨source, none⟩

def ignoringCase (source : String) : Pattern := ⟨source, some "i"⟩

def ignoresCase (p : Pattern) : Bool := p.flags.any fun f => f.contains 'i'

def toJson (p : Pattern) : Json :=
  .object (("pattern", .string p.source) :: (p.flags.map fun f => ("flags", Json.string f)).toList)

end Pattern
end XmlSupport
