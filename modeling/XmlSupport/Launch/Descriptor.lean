import XmlSupport.Error
import XmlSupport.Machine.Environment
import XmlSupport.Machine.Path
import XmlSupport.Settings.Basic

/-!
# Launch descriptors

What is needed to start the server: a program, its arguments, and the
environment and directory it starts in. A descriptor has two views, the
document that is shown to others and the process that is started from it. The
document is text, so what is no text is left out of it or refused.
-/

namespace XmlSupport.Launch

open Machine

structure Descriptor where
  command : String
  args : List String
  env : Environment
  cwd : Option Bytes

/-- The runtime that starts the server. -/
def runtime : String := "java"

/-- Limits on the memory of the server, and how it collects garbage. -/
def tuning : List String := ["-Xmx64M", "-XX:+UseG1GC", "-XX:+UseStringDeduplication"]

def classpathFlag : String := "-cp"

def mainClass : String := "org.eclipse.lemminx.XMLServerLauncher"

/-- Where the server is found in an installed extension. -/
def bundledServer (extension : Bytes) : Bytes :=
  Path.joinName (Path.joinName extension "server") "org.eclipse.lemminx-uber.jar"

/-- The server to start: the configured one as it is written, else the bundled one. -/
def serverPath (extension : Bytes) (configured : Option String) : String :=
  configured.getD (Utf8.decodeLossy (bundledServer extension))

namespace Descriptor

def build (extension : Bytes) (configured : Option String) (env : Environment) : Descriptor where
  command := runtime
  args := tuning ++ [classpathFlag, serverPath extension configured, mainClass]
  env := env
  cwd := none

/-- The descriptor for given settings. -/
def ofSettings (extension : Bytes) (settings : Settings) (env : Environment) : Descriptor :=
  build extension settings.serverPath env

/-- The argument behind the first class path flag. -/
def classpath (d : Descriptor) : Option String :=
  (d.args.dropWhile (· != classpathFlag))[1]?

def optionsJson (env : Environment) (cwd : Option String) : Json :=
  .object ([("env", .object (env.textEntries.map fun (k, v) => (k, .string v)))] ++
    (cwd.map fun s => ("cwd", Json.string s)).toList ++ [("stdio", .string "pipe")])

def documentWith (d : Descriptor) (cwd : Option String) : Json :=
  .object [("command", .string d.command), ("args", .array (d.args.map Json.string)),
    ("options", optionsJson d.env cwd)]

/-- The document form. A directory that is no text has none. -/
def document (d : Descriptor) : Except Error Json :=
  match d.cwd with
  | none => .ok (d.documentWith none)
  | some path =>
    match Utf8.decode? path with
    | some text => .ok (d.documentWith (some text))
    | none => .error .unwritablePath

end Descriptor

/-- The start of a process. Its input and output are pipes of the
client, and it does not outlive the client. -/
structure Invocation where
  program : String
  args : List String
  /-- The whole environment: nothing else is inherited. -/
  env : List (Bytes × Bytes)
  cwd : Option Bytes
  killOnDrop : Bool
  deriving DecidableEq, Repr

def Descriptor.invocation (d : Descriptor) : Invocation where
  program := d.command
  args := d.args
  env := d.env.entries
  cwd := d.cwd
  killOnDrop := true

end XmlSupport.Launch
