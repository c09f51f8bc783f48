import XmlSupport.Cli.Run
import XmlSupport.Proofs.Launch.Document
import XmlSupport.Proofs.Machine.Files

/-!
# What is printed is what is started

The process that `command` describes is the one that `run` starts, and where there
is none both say why in the same words. But `run` opens its log before it looks
for settings, and then the log and its directory are there to be found. Any other
file that can be read is as it was.
-/

namespace XmlSupport.Cli

open Machine Launch

/-- What the caller of a program sees of it: the status and the two outputs. -/
def Outcome.shown (o : Outcome) : Nat × Bytes × Bytes := (o.status, o.output, o.errors)

/-- What is seen of a program that fails. -/
def refused (obstacle : Obstacle) : Nat × Bytes × Bytes :=
  (1, [], line ("Error: " ++ obstacle.message))

/-- What is seen of an attempt to start a server, and of the server if it is started. -/
def started (start : Except Fault Relay.Server) (input : Bytes) : Nat × Bytes × Bytes :=
  match start with
  | .error fault => refused (.reported (.io fault))
  | .ok server =>
    let e := server input true
    (e.exit.code, e.output, e.errors)

namespace Surroundings

/-- The files in which `run` looks for its settings, its log being open. -/
def announced (s : Surroundings) (opened : Files) : Files :=
  s.record 0 ownTarget (loggingTo s.logPath) opened

/-- The files that a server finds when `run` starts it. -/
def ready (s : Surroundings) (opened : Files) (d : Descriptor) : Files :=
  s.record 1 relayTarget (Relay.starting d) (s.announced opened)

end Surroundings

variable {s : Surroundings} {args : LaunchArguments} {opened files : Files} {d : Descriptor}
  {obstacle : Obstacle}

section Log

variable {changed : Place → Prop}

theorem keeps_openLog (h : openLog s = .ok opened) : Files.Keeps changed s.files opened := by
  unfold openLog at h
  split at h
  · exact absurd h nofun
  · rename_i made hmade
    split at h
    · exact absurd h nofun
    · rename_i appended happended
      obtain rfl := Except.ok.inj h
      exact (Files.keeps_ensureDirectory hmade).trans (Files.keeps_append (absurd rfl) happended)

theorem keeps_record
    (hchanged : ∀ place, files.resolve s.current s.logPath = .ok place → changed place)
    (place : Nat) (target : String) (e : Log.Entry) :
    Files.Keeps changed files (s.record place target e files) := by
  unfold Surroundings.record
  split_ifs
  · cases happend : files.append s.current s.logPath (s.logLine place target e) with
    | error fault => exact .refl changed files
    | ok appended => exact Files.keeps_append (fun _ => hchanged) happend
  · exact .refl changed files

/-- Opening the log leaves every other file that can be read as it is. -/
theorem readText_announced {path : Bytes} {text : String} {place : Place}
    (hopen : openLog s = .ok opened) (hresolve : s.files.resolve s.current path = .ok place)
    (hread : s.files.readText s.current path = .ok text)
    (hlog : opened.resolve s.current s.logPath ≠ .ok place) :
    (s.announced opened).readText s.current path = .ok text := by
  have hkeeps : Files.Keeps (fun p => opened.resolve s.current s.logPath = .ok p) s.files
      (s.announced opened) := (keeps_openLog hopen).trans (keeps_record (fun _ h => h) _ _ _)
  exact hkeeps.readText hresolve hlog hread

end Log

/-- The files matter to the launch arguments only through what the settings file holds. -/
theorem descriptor_congr (h : ∀ path ∈ args.settings,
    files.readText s.current path = s.files.readText s.current path) :
    args.descriptor { s with files := files } = args.descriptor s := by
  have hload : args.loadSettings { s with files := files } = args.loadSettings s := by
    unfold LaunchArguments.loadSettings
    cases hpath : args.settings with
    | none => rfl
    | some path => simp only [Settings.load, h path hpath]
  have hextension : args.extension { s with files := files } = args.extension s := rfl
  simp only [LaunchArguments.descriptor, hload, hextension]

theorem cwd_of_descriptor (h : args.descriptor s = .ok d) : d.cwd = none := by
  obtain ⟨extension, -, hrest⟩ := bind_eq_ok_iff.1 h
  obtain ⟨settings, -, hbuild⟩ := bind_eq_ok_iff.1 hrest
  obtain rfl := pure_eq_ok_iff.1 hbuild
  rfl

theorem shown_command_of_ok (h : args.descriptor s = .ok d) :
    (command s args).shown = (0, line (d.documentWith none).pretty, []) := by
  simp [command, h, Descriptor.document, cwd_of_descriptor h, printed, Outcome.shown]

theorem shown_command_of_error (h : args.descriptor s = .error obstacle) :
    (command s args).shown = refused obstacle := by
  simp [command, h, failed, Outcome.shown, refused]

theorem shown_run (h : openLog s = .ok opened) :
    (run s args).shown = (launch s args opened).1.shown := by
  unfold run
  rw [h]
  dsimp only
  split
  · rfl
  · rfl

/-- Where there is nothing to start, no more than the log file is logged. -/
theorem launch_of_error
    (h : args.descriptor { s with files := s.announced opened } = .error obstacle) :
    launch s args opened = (failed obstacle [] none, [(ownTarget, loggingTo s.logPath)]) := by
  unfold launch
  simp only [Surroundings.announced] at h
  simp only [h]

/-- The server is started once that has been logged, and then the launch shows what the server
shows. -/
theorem exists_launch_of_ok (h : args.descriptor { s with files := s.announced opened } = .ok d) :
    ∃ outcome later,
      launch s args opened =
        (outcome, (ownTarget, loggingTo s.logPath) :: (relayTarget, Relay.starting d) :: later) ∧
      outcome.shown = started ((s.starter (s.ready opened d)).spawn d.invocation) s.input := by
  unfold launch Relay.relay
  simp only [Surroundings.announced] at h
  simp only [h, Surroundings.ready, Surroundings.announced]
  cases (s.starter _).spawn d.invocation with
  | error fault => exact ⟨_, _, rfl, rfl⟩
  | ok server => exact ⟨_, _, rfl, rfl⟩

theorem shown_launch_of_error
    (h : args.descriptor { s with files := s.announced opened } = .error obstacle) :
    (launch s args opened).1.shown = refused obstacle := by
  rw [launch_of_error h]
  rfl

theorem shown_launch_of_ok (h : args.descriptor { s with files := s.announced opened } = .ok d) :
    (launch s args opened).1.shown =
      started ((s.starter (s.ready opened d)).spawn d.invocation) s.input := by
  obtain ⟨outcome, later, hlaunch, hshown⟩ := exists_launch_of_ok h
  rw [hlaunch, hshown]

/-- What `command` prints is read back as a description of the process that `run`
starts, and of no other. Where there is none, both are refused for the same reason. -/
theorem command_describes_run (hopen : openLog s = .ok opened)
    (hsettings : ∀ path ∈ args.settings,
      (s.announced opened).readText s.current path = s.files.readText s.current path) :
    (∀ d, args.descriptor s = .ok d →
      ∃ text v, (command s args).shown = (0, Utf8.encode (text ++ "\n"), []) ∧
        Json.parse text.toList = .ok v ∧ Describes v d.invocation ∧
        (run s args).shown =
          started ((s.starter (s.ready opened d)).spawn d.invocation) s.input) ∧
    ∀ obstacle, args.descriptor s = .error obstacle →
      (command s args).shown = refused obstacle ∧ (run s args).shown = refused obstacle := by
  rw [shown_run hopen]
  constructor
  · intro d hd
    obtain ⟨v, hparse, hdescribes⟩ := d.exists_parse_documentWith (cwd_of_descriptor hd)
    exact ⟨_, v, shown_command_of_ok hd, hparse, hdescribes,
      shown_launch_of_ok ((descriptor_congr hsettings).trans hd)⟩
  · intro obstacle hobstacle
    exact ⟨shown_command_of_error hobstacle,
      shown_launch_of_error ((descriptor_congr hsettings).trans hobstacle)⟩

/-- A settings file names the server, and the environment holds a quote, the end of a
line and a byte that is no text. The server answers with its input. -/
def withQuotes : Surroundings where
  files := .ofList [([Utf8.encode "settings.json"],
    .file (Utf8.encode "\x7b\"xml.laguageServerPath\":\"x.jar\"\x7d") false)]
  current := []
  block := [Utf8.encode "HOME=/root", Utf8.encode "QUOTE=\"\n", Utf8.encode "BYTE=" ++ [0xFF]]
  input := Utf8.encode "ping"
  accountHome := none
  programDirectory := .error .notFound
  starter := fun _ _ => .ok fun input _ => ⟨input, [], .exited 3⟩

def settingsAt (path : String) : LaunchArguments :=
  ⟨some (Utf8.encode "/ext"), none, some (Utf8.encode path)⟩

/-- What it is asked to start can be handed to it, and so it is started. -/
theorem spawn_withQuotes (files : Files) :
    (withQuotes.starter files).spawn (Descriptor.build (Utf8.encode "/ext") (some "x.jar")
      withQuotes.block.snapshot).invocation = .ok fun input _ => ⟨input, [], .exited 3⟩ := by
  have hhanded : (Descriptor.build (Utf8.encode "/ext") (some "x.jar")
      withQuotes.block.snapshot).invocation.refusal? = none := by decide
  rw [Relay.Starter.spawn, hhanded]
  rfl

theorem command_describes_run_withQuotes :
    let args := settingsAt "settings.json"
    let d := Descriptor.build (Utf8.encode "/ext") (some "x.jar") withQuotes.block.snapshot
    ∃ opened, openLog withQuotes = .ok opened ∧
      (∀ path ∈ args.settings, (withQuotes.announced opened).readText withQuotes.current path =
        withQuotes.files.readText withQuotes.current path) ∧
      args.descriptor withQuotes = .ok d ∧
      ∃ text v, (command withQuotes args).shown = (0, Utf8.encode (text ++ "\n"), []) ∧
        Json.parse text.toList = .ok v ∧ Describes v d.invocation ∧
        (run withQuotes args).shown = (3, Utf8.encode "ping", []) := by
  intro args d
  obtain ⟨opened, hopen, hlog⟩ : ∃ opened, openLog withQuotes = .ok opened ∧
      opened.resolve withQuotes.current withQuotes.logPath ≠ .ok [Utf8.encode "settings.json"] :=
    ⟨_, rfl, by decide⟩
  have hsettings : ∀ path ∈ args.settings,
      (withQuotes.announced opened).readText withQuotes.current path =
        withQuotes.files.readText withQuotes.current path := by
    rintro path ⟨⟩
    exact (readText_announced hopen rfl rfl hlog).trans rfl
  have hd : args.descriptor withQuotes = .ok d := rfl
  obtain ⟨text, v, hcommand, hparse, hdescribes, hrun⟩ :=
    (command_describes_run hopen hsettings).1 d hd
  refine ⟨opened, hopen, hsettings, hd, text, v, hcommand, hparse, hdescribes, hrun.trans ?_⟩
  rw [spawn_withQuotes]
  rfl

/-- There are no files yet, and the data directory is to be created where the client is. -/
def firstStart : Surroundings where
  files := .empty
  current := []
  block := [Utf8.encode "XDG_DATA_HOME=data"]
  input := Utf8.encode "ping"
  accountHome := none
  programDirectory := .error .notFound
  starter := fun _ _ => .ok fun input _ => ⟨input, [], .exited 3⟩

/-- Settings in the place of the data directory are missing to `command`. But `run` has
created the directory and finds no file there. -/
theorem run_finds_what_it_created :
    (∃ opened, openLog firstStart = .ok opened) ∧
      (command firstStart (settingsAt "data/xml-client")).shown =
        refused (.reported (.io .notFound)) ∧
      (run firstStart (settingsAt "data/xml-client")).shown =
        refused (.reported (.io .isADirectory)) ∧
      refused (.reported (.io .notFound)) ≠ refused (.reported (.io .isADirectory)) :=
  ⟨⟨_, rfl⟩, by decide, by decide +kernel, by decide⟩

end XmlSupport.Cli
