import XmlSupport.Json.Value

/-!
# User settings

The one setting of the client is the path of a language server to use in place
of the bundled one.
-/

namespace XmlSupport

structure Settings where
  serverPath : Option String
  deriving DecidableEq, Repr

namespace Settings

/-- The key of the server path, in the spelling that users have always had to write. -/
def serverPathKey : String := "xml.laguageServerPath"

def none : Settings := ⟨.none⟩

/-- Settings from what the editor reports for the key: only a string counts. -/
def ofHostValue : Option Json → Settings
  | some (.string path) => ⟨some path⟩
  | _ => none

end Settings
end XmlSupport
