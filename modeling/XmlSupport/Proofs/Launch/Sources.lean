import XmlSupport.Proofs.Cli.Options
import XmlSupport.Proofs.Machine.Environment
import XmlSupport.Proofs.Session.Activation
import XmlSupport.Proofs.Settings.Text

/-!
# Where the server path comes from

The editor, the command line and a settings file can each name the server to
start. They are different ways to one descriptor: what is configured stands
behind the class path flag as it is written, and nothing else depends on it. The
editor has its environment as it is, a program reads it off the block it is handed.
-/

namespace XmlSupport.Launch

open Cli Machine Session

/-- The command line with these arguments is understood, and it leads to this descriptor. -/
structure Launches (s : Surroundings) (args : LaunchArguments) (d : Descriptor) : Prop where
  command : Arguments.parse (Utf8.encode "command" :: args.options) = .ok (.command args)
  run : Arguments.parse (Utf8.encode "run" :: args.options) = .ok (.run args)
  descriptor : args.descriptor s = .ok d

theorem classpath_build (extension : Bytes) (configured : Option String) (env : Environment) :
    (Descriptor.build extension configured env).classpath =
      some (serverPath extension configured) := rfl

variable {s : Surroundings} {path file : Bytes} {text : String} {settings : Settings}

theorem load_eq (hread : s.files.read s.current file = .ok (Utf8.encode text))
    (htext : Settings.WrittenAs text.toList settings) :
    Settings.load s.files s.current file = .ok settings := by
  have hreadText : s.files.readText s.current file = .ok text := by
    simp [Files.readText, hread, Utf8.decode?_encode, bind, Except.bind, pure, Except.pure]
  simp [Settings.load, hreadText, htext.parse_eq]

theorem descriptor_of_load (given : Option String)
    (h : Settings.load s.files s.current file = .ok settings) :
    LaunchArguments.descriptor s ⟨some path, given, some file⟩ =
      .ok (.build path (given.or settings.serverPath) s.block.snapshot) := by
  simp [LaunchArguments.descriptor, LaunchArguments.extension, LaunchArguments.loadSettings, h,
    Except.mapError, bind, Except.bind, pure, Except.pure]

theorem descriptor_of_load_error (given : Option String) {e : Error}
    (h : Settings.load s.files s.current file = .error e) :
    LaunchArguments.descriptor s ⟨some path, given, some file⟩ = .error (.reported e) := by
  simp [LaunchArguments.descriptor, LaunchArguments.extension, LaunchArguments.loadSettings, h,
    Except.mapError, bind, Except.bind]

/-- Where no directory is named and the program's own is not to be found, that is said first. -/
theorem descriptor_of_unlocated {args : LaunchArguments} {fault : Fault}
    (hpath : args.extensionPath = none) (h : s.programDirectory = .error fault) :
    args.descriptor s = .error (.unlocated fault) := by
  simp [LaunchArguments.descriptor, LaunchArguments.extension, hpath, h, Except.mapError, bind,
    Except.bind]

theorem launches_of_load (hpath : path ≠ []) (hfile : file ≠ []) (given : Option String)
    (h : Settings.load s.files s.current file = .ok settings) :
    Launches s ⟨some path, given, some file⟩
      (.build path (given.or settings.serverPath) s.block.snapshot) := by
  have hpaths : LaunchArguments.hasPaths ⟨some path, given, some file⟩ :=
    ⟨by simpa using hpath, by simpa using hfile⟩
  exact ⟨LaunchArguments.parse_command hpaths, LaunchArguments.parse_run hpaths,
    descriptor_of_load given h⟩

theorem ofHostValue_eq_none {value : Option Json} (h : ∀ p, value ≠ some (.string p)) :
    Settings.ofHostValue value = .none := by
  unfold Settings.ofHostValue
  split
  · exact absurd rfl (h _)
  · rfl

theorem launches_without_settings (s : Surroundings) (hpath : path ≠ []) (given : Option String) :
    Launches s ⟨some path, given, none⟩ (.build path given s.block.snapshot) := by
  have hpaths : LaunchArguments.hasPaths ⟨some path, given, none⟩ := ⟨by simpa using hpath, nofun⟩
  refine ⟨LaunchArguments.parse_command hpaths, LaunchArguments.parse_run hpaths, ?_⟩
  show Except.ok (Descriptor.build path (given.or none) s.block.snapshot) = _
  rw [Option.or_none]

/-- The editor, a flag of the command line and a settings file in any spelling lead to
the same descriptor for the same server path and environment, and the path stands behind the
class path flag as it is. A flag wins over a settings file, but the file has to be in order
all the same. What is no string in the editor counts as nothing. -/
theorem sources_agree (s : Surroundings) {path : Bytes} (hpath : path ≠ []) :
    (∀ p : String,
      (∀ env : Environment,
        let d := Descriptor.build path (some p) env
        (d.classpath = some p ∧
          ∃ before after, d.args = before ++ "-cp" :: p :: after ∧ "-cp" ∉ before) ∧
        ∀ answers : Answers, answers (.configuration "xml.laguageServerPath") = some (.string p) →
          ((Extension.activate path env).run answers).requests = activationRequests d) ∧
      let d := Descriptor.build path (some p) s.block.snapshot
      Launches s ⟨some path, some p, none⟩ d ∧
      ∀ file text settings, file ≠ [] →
        s.files.read s.current file = .ok (Utf8.encode text) →
        Settings.WrittenAs text.toList settings →
          Launches s ⟨some path, some p, some file⟩ d ∧
          (settings.serverPath = some p → Launches s ⟨some path, none, some file⟩ d)) ∧
    ((∀ (env : Environment) (answers : Answers),
        (∀ p, answers (.configuration "xml.laguageServerPath") ≠ some (.string p)) →
          ((Extension.activate path env).run answers).requests =
            activationRequests (.build path none env)) ∧
      let bundled := Descriptor.build path none s.block.snapshot
      Launches s ⟨some path, none, none⟩ bundled ∧
      ∀ file text, file ≠ [] → s.files.read s.current file = .ok (Utf8.encode text) →
        Settings.WrittenAs text.toList ⟨none⟩ →
          Launches s ⟨some path, none, some file⟩ bundled) ∧
    (∀ env : Environment, (∀ name ∈ env.keys, Environment.Block.IsName name) →
      s.block = .ofEnvironment env → s.block.snapshot = env) ∧
    ∀ file given,
      (∀ fault, s.files.readText s.current file = .error fault →
        LaunchArguments.descriptor s ⟨some path, given, some file⟩ =
          .error (.reported (.io fault))) ∧
      ∀ text stop, s.files.readText s.current file = .ok text →
        Settings.parse text.toList = .error stop →
          LaunchArguments.descriptor s ⟨some path, given, some file⟩ =
            .error (.reported (.settings file (Settings.reason text.toList stop))) := by
  refine ⟨fun p => ⟨fun env => ⟨⟨classpath_build path (some p) env, tuning, [mainClass], rfl,
    by decide⟩, ?_⟩, launches_without_settings s hpath (some p), ?_⟩,
    ⟨?_, launches_without_settings s hpath none, ?_⟩, ?_, fun file given => ⟨?_, ?_⟩⟩
  · intro answers h
    rw [requests_activate, configuredServer, h]
    rfl
  · intro file text settings hfile hread htext
    have hload := load_eq hread htext
    exact ⟨launches_of_load hpath hfile (some p) hload,
      fun h => h ▸ launches_of_load hpath hfile none hload⟩
  · intro env answers h
    rw [requests_activate, configuredServer, ofHostValue_eq_none h]
    rfl
  · intro file text hfile hread htext
    exact launches_of_load hpath hfile none (load_eq hread htext)
  · intro env hnames hblock
    rw [hblock, Environment.Block.snapshot_ofEnvironment hnames]
  · intro fault hread
    exact descriptor_of_load_error given (by rw [Settings.load, hread])
  · intro text stop hread hparse
    exact descriptor_of_load_error given (by simp only [Settings.load, hread, hparse])

/-- An object with a nested array, in which the server path is the class path flag and
its dash is escaped. -/
def flagInSettings : String := "\x7b\"a\":[null], \"xml.laguageServerPath\" : \"\\u002dcp\"\x7d"

theorem writtenAs_flagInSettings : Settings.WrittenAs flagInSettings.toList ⟨some "-cp"⟩ := by
  let item : Json.Part := ⟨[], [], "null".toList, []⟩
  let unrelated : Json.Part := ⟨"\"a\":".toList, [], "[null]".toList, []⟩
  let member : Json.Part :=
    ⟨" \"xml.laguageServerPath\" :".toList, [' '], "\"\\u002dcp\"".toList, []⟩
  have hblank : Json.IsBlank [] := List.forall_mem_nil _
  have hspace : Json.IsBlank [' '] := List.forall_mem_singleton.2 List.mem_cons_self
  have hdash : Json.WritesUnit "002d".toList '-'.toNat :=
    .digits (a := 0) (b := 0) (c := 2) (d := 13) ⟨by decide, .inl rfl⟩ ⟨by decide, .inl rfl⟩
      ⟨by decide, .inl rfl⟩ ⟨by decide, .inl rfl⟩
  have hitem : ∀ p ∈ [item], p.IsFramed .list := List.forall_mem_singleton.2 ⟨.list, hblank, hblank⟩
  have hnull : ∀ p ∈ [item], Json.IsValue p.text :=
    List.forall_mem_singleton.2 (.scalar (.word (by decide)))
  have ha : Json.Spells "a".toList "a".toList := .of_isPlain rfl
  have hkey : Json.Spells "xml.laguageServerPath".toList "xml.laguageServerPath".toList :=
    .of_isPlain rfl
  have hcp : Json.Spells "cp".toList "cp".toList := .of_isPlain rfl
  have hvalue : Json.Spells "\\u002dcp".toList "-cp".toList := .cons (.number hdash) hcp
  have hunrelated : ∀ p ∈ [unrelated], Settings.IsUnrelated p :=
    List.forall_mem_singleton.2 ⟨"a", by decide, ⟨.mk hblank ha hblank, hblank, hblank⟩,
      .compound .list (List.cons_ne_nil item []) hitem hnull⟩
  have hmember : Settings.GivesPath member (some "-cp") :=
    ⟨⟨.mk hspace hkey hspace, hspace, hblank⟩, .string hvalue⟩
  exact .set hblank hunrelated hmember (List.forall_mem_nil _) hblank

/-- A byte that is no text is the value of one variable, and an equals sign that of another. -/
def oddEnvironment : Environment :=
  .ofList [(Utf8.encode "BYTE", [0xFF]), (Utf8.encode "SIGN", Utf8.encode "=")]

/-- That object is the content of the only file. -/
def withSettings : Surroundings where
  files := .ofList [([Utf8.encode "settings.json"], .file (Utf8.encode flagInSettings) false)]
  current := []
  block := .ofEnvironment oddEnvironment
  input := []
  accountHome := none
  programDirectory := .error .notFound
  starter := fun _ _ => .error .notFound

/-- A server path that is the class path flag stands behind the flag all the same. -/
theorem sources_agree_at_classpathFlag :
    Utf8.encode "/ext" ≠ [] ∧
    withSettings.files.read withSettings.current (Utf8.encode "settings.json") =
      .ok (Utf8.encode flagInSettings) ∧
    (∀ name ∈ oddEnvironment.keys, Environment.Block.IsName name) ∧
    let d := Descriptor.build (Utf8.encode "/ext") (some "-cp") oddEnvironment
    d.classpath = some "-cp" ∧
    Launches withSettings
      ⟨some (Utf8.encode "/ext"), none, some (Utf8.encode "settings.json")⟩ d := by
  have hpath : Utf8.encode "/ext" ≠ [] := by decide
  have hread : withSettings.files.read withSettings.current (Utf8.encode "settings.json") =
      .ok (Utf8.encode flagInSettings) := rfl
  have hnames : ∀ name ∈ oddEnvironment.keys, Environment.Block.IsName name := by
    have hkeys : oddEnvironment.keys = [Utf8.encode "BYTE", Utf8.encode "SIGN"] := rfl
    rw [hkeys, List.forall_mem_cons, List.forall_mem_singleton]
    exact ⟨⟨_, _, rfl, by decide⟩, ⟨_, _, rfl, by decide⟩⟩
  obtain ⟨hagree, -, hsnapshot, -⟩ := sources_agree withSettings hpath
  obtain ⟨hevery, -, hfile⟩ := hagree "-cp"
  have hlaunches := (hfile _ _ _ (by decide) hread writtenAs_flagInSettings).2 rfl
  rw [hsnapshot oddEnvironment hnames rfl] at hlaunches
  exact ⟨hpath, hread, hnames, (hevery oddEnvironment).1.1, hlaunches⟩

end XmlSupport.Launch
