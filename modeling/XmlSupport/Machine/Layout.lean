import XmlSupport.Machine.Files

/-!
# The files of a machine

The places that every machine has: the system's directories, the command shell
and its companions, and the directory in which the client is started.
-/

namespace XmlSupport.Machine.Layout

def place (names : List String) : Place := names.map Utf8.encode

/-- The directory in which the client is started. -/
def workPlace : Place := place ["tmp", "work"]

/-- The command shell under its names. -/
def shells : List String := ["sh", "dash", "bash"]

/-- Programs that start others. -/
def launchers : List String := ["env", "timeout", "xargs", "nice", "nohup", "setsid", "stdbuf"]

/-- The programs that are installed beside the shell. -/
def programNames : List String := shells ++ launchers ++
  ["cat", "wc", "tr", "head", "tail", "seq", "sleep", "true", "false", "echo", "printf", "pwd",
   "sort", "rev", "tee", "printenv", "yes", "ls", "tac", "uniq", "nl", "od", "cut", "expr", "test",
   "[", "touch", "mkdir", "rmdir", "rm", "cp", "mv", "chmod", "basename", "dirname", "whoami"]

/-- How the file of a compiled program begins. Its content is no text. -/
def compiledMark : Bytes := [0x7F, 0x45, 0x4C, 0x46, 0xFF]

def directories : List (Place × Node) :=
  [["usr"], ["usr", "bin"], ["usr", "lib"], ["usr", "share"], ["etc"], ["tmp"], ["tmp", "work"],
   ["dev"], ["home"], ["opt"], ["root"], ["var"], ["var", "tmp"]].map fun names =>
    (place names, .directory false)

def others : List (Place × Node) :=
  [(place ["bin"], .link (place ["usr", "bin"])), (place ["lib"], .link (place ["usr", "lib"])),
   (place ["proc"], .directory true), (place ["sys"], .directory true),
   (place ["dev", "null"], .file [] false), (place ["dev", "zero"], .file [] false),
   (place ["etc", "passwd"], .file (Utf8.encode "root:x:0:0:root:/root:/bin/sh\n") false)]

def programs : List (Place × Node) :=
  programNames.map fun name => (place ["usr", "bin", name], .file compiledMark true)

def files : Files := .ofList (directories ++ others ++ programs)

end XmlSupport.Machine.Layout
