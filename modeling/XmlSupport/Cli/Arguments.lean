import XmlSupport.Text.Utf8

/-!
# The command line

`command` prints how the server would be started, `language-configuration`
prints what the editor is given, and `run` starts the server. Arguments are read
from left to right, and the first one that asks for help or is wrong decides.
-/

namespace XmlSupport.Cli

structure LaunchArguments where
  extensionPath : Option Bytes
  serverPath : Option String
  settings : Option Bytes
  deriving DecidableEq, Repr

inductive Invocation where
  | command (args : LaunchArguments)
  | languageConfiguration
  | run (args : LaunchArguments)
  deriving DecidableEq, Repr

/-- Why a command line starts nothing. -/
inductive Answer where
  | help
  | version
  | misuse
  deriving DecidableEq, Repr

namespace Arguments

def dash : UInt8 := 45

def equalsSign : UInt8 := 61

/-- Whether an argument could be an option; a single dash could not. -/
def looksLikeOption (arg : Bytes) : Bool := arg.head? == some dash && arg.length > 1

/-- An argument that asks for help: the long option, or a group of short ones that begins with
it. -/
def asksHelp (arg : Bytes) : Bool :=
  arg = Utf8.encode "--help" || (Utf8.encode "-h").isPrefixOf arg

def asksVersion (arg : Bytes) : Bool :=
  arg = Utf8.encode "--version" || (Utf8.encode "-V").isPrefixOf arg

inductive LaunchOption where
  | extensionPath
  | serverPath
  | settings
  deriving DecidableEq

def options : List (Bytes × LaunchOption) :=
  [(Utf8.encode "--extension-path", .extensionPath), (Utf8.encode "--server-path", .serverPath),
   (Utf8.encode "--settings", .settings)]

/-- Stores the value of an option. None may be given twice, paths may not be
empty, and the server path has to be text. -/
def store (args : LaunchArguments) (option : LaunchOption) (value : Bytes) :
    Option LaunchArguments :=
  match option with
  | .extensionPath =>
    if value.isEmpty || args.extensionPath.isSome then none
    else some { args with extensionPath := some value }
  | .serverPath =>
    match Utf8.decode? value with
    | some text =>
      if args.serverPath.isSome then none else some { args with serverPath := some text }
    | none => none
  | .settings =>
    if value.isEmpty || args.settings.isSome then none
    else some { args with settings := some value }

/-- Two dashes end the options. As no command takes anything else, nothing may follow them. -/
def endsOptions (arg : Bytes) (rest : List Bytes) : Bool := arg = [dash, dash] && rest.isEmpty

/-- The options of a launch. -/
def readLaunch (args : LaunchArguments) : List Bytes → Except Answer LaunchArguments
  | [] => .ok args
  | arg :: rest =>
    if asksHelp arg then .error .help
    else if endsOptions arg rest then .ok args
    else
      let name := arg.takeWhile (· != equalsSign)
      match options.lookup name with
      | none => .error .misuse
      | some option =>
        if name.length < arg.length then
          match store args option (arg.drop (name.length + 1)) with
          | some args => readLaunch args rest
          | none => .error .misuse
        else
          match rest with
          | [] => .error .misuse
          | value :: rest =>
            if looksLikeOption value then .error .misuse
            else
              match store args option value with
              | some args => readLaunch args rest
              | none => .error .misuse

/-- The arguments of a command that takes none. -/
def readNothing : List Bytes → Except Answer Unit
  | [] => .ok ()
  | arg :: rest =>
    if asksHelp arg then .error .help
    else if endsOptions arg rest then .ok ()
    else .error .misuse

def noLaunch : LaunchArguments := ⟨none, none, none⟩

/-- What a command line asks for. -/
def parse : List Bytes → Except Answer Invocation
  | [] => .error .misuse
  | arg :: rest =>
    if asksHelp arg then .error .help
    else if asksVersion arg then .error .version
    else if arg = Utf8.encode "command" then (readLaunch noLaunch rest).map .command
    else if arg = Utf8.encode "run" then (readLaunch noLaunch rest).map .run
    else if arg = Utf8.encode "language-configuration" then
      (readNothing rest).map fun _ => .languageConfiguration
    else if arg = Utf8.encode "help" then readHelp rest
    else .error .misuse
where
  /-- Help is given on a command, by its name alone. -/
  readHelp : List Bytes → Except Answer Invocation
    | [] => .error .help
    | [arg] =>
      if (["command", "run", "language-configuration", "help"].map Utf8.encode).contains arg then
        .error .help
      else .error .misuse
    | _ => .error .misuse

end Arguments
end XmlSupport.Cli
