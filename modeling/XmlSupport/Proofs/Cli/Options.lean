import XmlSupport.Cli.Run
import XmlSupport.Proofs.Text.Utf8

/-!
# Launch arguments on a command line

Launch arguments can be written as options, each with its value behind an equals
sign. A command line reads back exactly the arguments that were written, as long
as their paths are not empty.
-/

namespace XmlSupport.Cli

namespace Arguments

def LaunchOption.name : LaunchOption → String
  | .extensionPath => "--extension-path"
  | .serverPath => "--server-path"
  | .settings => "--settings"

/-- An option with its value behind an equals sign. -/
def LaunchOption.assigned (option : LaunchOption) (value : Bytes) : Bytes :=
  Utf8.encode option.name ++ equalsSign :: value

variable {args args' : LaunchArguments} {option : LaunchOption} {value : Bytes}

theorem asksHelp_assigned (option : LaunchOption) (value : Bytes) :
    asksHelp (option.assigned value) = false := by
  cases option <;> rfl

theorem endsOptions_assigned (option : LaunchOption) (value : Bytes) (rest : List Bytes) :
    endsOptions (option.assigned value) rest = false := by
  cases option <;> rfl

theorem takeWhile_assigned (option : LaunchOption) (value : Bytes) :
    (option.assigned value).takeWhile (· != equalsSign) = Utf8.encode option.name := by
  cases option <;> rfl

theorem lookup_name (option : LaunchOption) :
    options.lookup (Utf8.encode option.name) = some option := by
  cases option <;> rfl

theorem readLaunch_assigned (hstore : store args option value = some args') (rest : List Bytes) :
    readLaunch args (option.assigned value :: rest) = readLaunch args' rest := by
  have hlength : (Utf8.encode option.name).length < (option.assigned value).length := by
    simp [LaunchOption.assigned]
  have hvalue : (option.assigned value).drop ((Utf8.encode option.name).length + 1) = value := by
    simp [LaunchOption.assigned, List.drop_append]
  rw [readLaunch]
  simp only [asksHelp_assigned, endsOptions_assigned, takeWhile_assigned, lookup_name, hlength,
    hvalue, hstore, if_true, Bool.false_eq_true, if_false]

theorem store_extensionPath (hvalue : value ≠ []) (h : args.extensionPath = none) :
    store args .extensionPath value = some { args with extensionPath := some value } := by
  simp [store, hvalue, h]

theorem store_serverPath (p : String) (h : args.serverPath = none) :
    store args .serverPath (Utf8.encode p) = some { args with serverPath := some p } := by
  simp [store, Utf8.decode?_encode, h]

theorem store_settings (hvalue : value ≠ []) (h : args.settings = none) :
    store args .settings value = some { args with settings := some value } := by
  simp [store, hvalue, h]

end Arguments

namespace LaunchArguments

open Arguments

/-- The arguments as options of a command line. -/
def options (args : LaunchArguments) : List Bytes :=
  (args.extensionPath.map (LaunchOption.assigned .extensionPath)).toList ++
    ((args.serverPath.map fun p => LaunchOption.assigned .serverPath (Utf8.encode p)).toList ++
      (args.settings.map (LaunchOption.assigned .settings)).toList)

/-- Paths are not empty; a server path may be. -/
def hasPaths (args : LaunchArguments) : Prop :=
  args.extensionPath ≠ some [] ∧ args.settings ≠ some []

theorem readLaunch_options {args : LaunchArguments} (h : args.hasPaths) :
    readLaunch noLaunch args.options = .ok args := by
  obtain ⟨extension, server, settings⟩ := args
  obtain ⟨hextension, hsettings⟩ := h
  have hfirst (rest : List Bytes) : readLaunch noLaunch
      ((extension.map (LaunchOption.assigned .extensionPath)).toList ++ rest) =
        readLaunch ⟨extension, none, none⟩ rest := by
    cases extension with
    | none => rfl
    | some path =>
      exact readLaunch_assigned (store_extensionPath (by simpa using hextension) rfl) rest
  have hsecond (rest : List Bytes) : readLaunch ⟨extension, none, none⟩
      ((server.map fun p => LaunchOption.assigned .serverPath (Utf8.encode p)).toList ++ rest) =
        readLaunch ⟨extension, server, none⟩ rest := by
    cases server with
    | none => rfl
    | some p => exact readLaunch_assigned (store_serverPath p rfl) rest
  have hthird : readLaunch ⟨extension, server, none⟩
      (settings.map (LaunchOption.assigned .settings)).toList =
        .ok ⟨extension, server, settings⟩ := by
    cases settings with
    | none => rfl
    | some path =>
      exact readLaunch_assigned (store_settings (by simpa using hsettings) rfl) []
  exact (hfirst _).trans ((hsecond _).trans hthird)

theorem parse_command {args : LaunchArguments} (h : args.hasPaths) :
    parse (Utf8.encode "command" :: args.options) = .ok (.command args) := by
  show (readLaunch noLaunch args.options).map Invocation.command = _
  rw [readLaunch_options h]
  rfl

theorem parse_run {args : LaunchArguments} (h : args.hasPaths) :
    parse (Utf8.encode "run" :: args.options) = .ok (.run args) := by
  show (readLaunch noLaunch args.options).map Invocation.run = _
  rw [readLaunch_options h]
  rfl

end LaunchArguments
end XmlSupport.Cli
