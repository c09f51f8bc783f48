import XmlSupport.Error
import XmlSupport.Machine.Files
import XmlSupport.Settings.Reader

/-!
# Settings in a file
-/

namespace XmlSupport.Settings

open Machine

/-- Settings from a file, found from a current directory. -/
def load (files : Files) (current : Place) (path : Bytes) : Except Error Settings :=
  match files.readText current path with
  | .error fault => .error (.io fault)
  | .ok text =>
    match parse text.toList with
    | .error stop => .error (.settings path (reason text.toList stop))
    | .ok settings => .ok settings

end XmlSupport.Settings
