import XmlSupport.Machine.Environment
import XmlSupport.Machine.Path

/-!
# Where the client keeps its data

A directory of its own below the user's data directory, and in it the log file.
-/

namespace XmlSupport.DataDirectory

open Machine

def ownName : String := "xml-client"

def logName : String := "xml-client.log"

/-- The user's home directory. An empty variable counts as none, and without one the account of
the user decides, if it names a home. -/
def home? (account : Option Bytes) (env : Environment) : Option Bytes :=
  ((env.get? "HOME").filter fun home => !home.isEmpty).or account

/-- The directory in which programs keep data of the user. A data variable that
is no text counts as none. -/
def base (account : Option Bytes) (env : Environment) : Bytes :=
  match env.text? "XDG_DATA_HOME" with
  | some directory => Utf8.encode directory
  | none =>
    match home? account env with
    | some home => Path.joinName home ".local/share"
    | none => Path.dot

def path (account : Option Bytes) (env : Environment) : Bytes :=
  Path.joinName (base account env) ownName

def logPath (account : Option Bytes) (env : Environment) : Bytes :=
  Path.joinName (path account env) logName

end XmlSupport.DataDirectory
