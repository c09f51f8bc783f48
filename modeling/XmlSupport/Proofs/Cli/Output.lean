import XmlSupport.Proofs.Cli.Agreement
import XmlSupport.Proofs.Cli.Options
import XmlSupport.Proofs.Relay.Report

/-!
# The output of a run belongs to the server

A run that is refused, at whatever stage, writes nothing to the output and fails.
Once a server has been started, the output is the server's, and so is the status.
What is logged stands in the log file and nowhere else: when settings are looked
for and when the server is started, the file ends with the lines of all entries
so far that the filter lets through.
-/

namespace XmlSupport.Cli

open Machine Launch

variable {s : Surroundings} {launched : LaunchArguments} {args : List Bytes}
  {made opened : Files} {place : Place} {d : Descriptor}

/-- What the log file shows of entries, the first of which stands at a place among all entries. -/
def Surroundings.logged (s : Surroundings) (place : Nat) : List (String × Log.Entry) → Bytes
  | [] => []
  | (target, e) :: rest =>
    (if s.filter.admits target e then s.logLine place target e else []) ++
      s.logged (place + 1) rest

section LogFile

variable {files : Files} {before : Bytes} {executable : Bool}

/-- A log file is found under its path and holds this. -/
structure LogHolds (s : Surroundings) (files : Files) (place : Place) (content : Bytes)
    (executable : Bool) : Prop where
  resolve : files.resolve s.current s.logPath = .ok place
  node : files.node? place = some (.file content executable)

theorem LogHolds.record (h : LogHolds s files place before executable) (count : Nat)
    (target : String) (e : Log.Entry) :
    LogHolds s (s.record count target e files) place
      (before ++ s.logged count [(target, e)]) executable := by
  have hlogged : s.logged count [(target, e)] =
      if s.filter.admits target e then s.logLine count target e else [] := List.append_nil _
  rw [hlogged, Surroundings.record]
  by_cases hadmits : s.filter.admits target e = true
  · rw [if_pos hadmits, if_pos hadmits]
    obtain ⟨files', happend, hresolve, hnode⟩ :=
      Files.append_file h.resolve h.node (s.logLine count target e)
    rw [happend]
    exact ⟨hresolve, hnode⟩
  · rw [if_neg hadmits, if_neg hadmits, List.append_nil]
    exact h

theorem LogHolds.announced (h : LogHolds s opened place before executable) :
    LogHolds s (s.announced opened) place
      (before ++ s.logged 0 [(ownTarget, loggingTo s.logPath)]) executable :=
  h.record 0 ownTarget (loggingTo s.logPath)

theorem LogHolds.ready (h : LogHolds s opened place before executable) (d : Descriptor) :
    LogHolds s (s.ready opened d) place
      (before ++
        s.logged 0 [(ownTarget, loggingTo s.logPath), (relayTarget, Relay.starting d)])
      executable := by
  have hready := h.announced.record 1 relayTarget (Relay.starting d)
  have hcontent : before ++ s.logged 0 [(ownTarget, loggingTo s.logPath)] ++
        s.logged 1 [(relayTarget, Relay.starting d)] =
      before ++
        s.logged 0 [(ownTarget, loggingTo s.logPath), (relayTarget, Relay.starting d)] := by
    simp [Surroundings.logged]
  exact hcontent ▸ hready

end LogFile

theorem take_one_launch :
    (launch s launched opened).2.take 1 = [(ownTarget, loggingTo s.logPath)] := by
  cases h : launched.descriptor { s with files := s.announced opened } with
  | error obstacle => rw [launch_of_error h, List.take_succ_cons, List.take_zero]
  | ok d =>
    obtain ⟨outcome, later, hlaunch, -⟩ := exists_launch_of_ok h
    rw [hlaunch, List.take_succ_cons, List.take_zero]

theorem take_two_launch
    (h : launched.descriptor { s with files := s.announced opened } = .ok d) :
    (launch s launched opened).2.take 2 =
      [(ownTarget, loggingTo s.logPath), (relayTarget, Relay.starting d)] := by
  obtain ⟨outcome, later, hlaunch, -⟩ := exists_launch_of_ok h
  rw [hlaunch, List.take_succ_cons, List.take_succ_cons, List.take_zero]

theorem openLog_eq_ok
    (hmade : s.files.ensureDirectory s.current s.dataDirectory = .ok made)
    (hopened : made.append s.current s.logPath [] = .ok opened) : openLog s = .ok opened := by
  simp only [openLog, hmade, hopened]

/-- Without a data directory there is no log, and nothing is looked for or started. -/
theorem run_of_no_directory {fault : Fault}
    (h : s.files.ensureDirectory s.current s.dataDirectory = .error fault) :
    run s launched = failed (.reported (.io fault)) (dataDirectoryFailed fault) none := by
  simp only [run, openLog, h]

/-- All that is logged goes to the log file. -/
theorem log_run (hopen : openLog s = .ok opened)
    (hplace : opened.resolve s.current s.logPath = .ok place) :
    (run s launched).log = some (place, admitted s.filter (launch s launched opened).2) := by
  simp only [run, hopen, hplace]

/-- Until the server is started, no file but the log file has been written to. -/
theorem keeps_ready (hplace : opened.resolve s.current s.logPath = .ok place)
    {node : Node} (hnode : opened.node? place = some node) :
    Files.Keeps (· = place) opened (s.ready opened d) := by
  have hfirst : Files.Keeps (· = place) opened (s.announced opened) := by
    refine keeps_record (fun found hfound => ?_) _ _ _
    exact Except.ok.inj (hfound.symm.trans hplace)
  have hsecond : Files.Keeps (· = place) (s.announced opened) (s.ready opened d) := by
    refine keeps_record (fun found hfound => ?_) _ _ _
    exact Except.ok.inj (hfound.symm.trans (hfirst.resolve hplace hnode))
  exact hfirst.trans hsecond

/-- A run that is refused, at whatever stage, has no output and the status of a failure. Once a
server is started, the output is the server's and so is the status, in whatever order the server,
the relay and its pumps take their steps. What is logged goes to the log file, line by line. -/
theorem perform_run (hparse : Arguments.parse args = .ok (.run launched))
    (hlog : ∀ made, s.files.ensureDirectory s.current s.dataDirectory = .ok made →
      ∃ opened, made.append s.current s.logPath [] = .ok opened) :
    ∃ outcome, perform s args = .ok outcome ∧
      (∀ fault, s.files.ensureDirectory s.current s.dataDirectory = .error fault →
        outcome.shown =
            (1, [], dataDirectoryFailed fault ++ line ("Error: " ++ fault.message)) ∧
          outcome.log = none) ∧
      ∀ made, s.files.ensureDirectory s.current s.dataDirectory = .ok made →
        ∃ opened place before executable, made.append s.current s.logPath [] = .ok opened ∧
          let entries := (launch s launched opened).2
          LogHolds s opened place before executable ∧
          outcome.log = some (place, admitted s.filter entries) ∧
          LogHolds s (s.announced opened) place (before ++ s.logged 0 (entries.take 1))
            executable ∧
          (∀ obstacle,
            launched.descriptor { s with files := s.announced opened } = .error obstacle →
              outcome.shown = (1, [], line ("Error: " ++ obstacle.message))) ∧
          ∀ d, launched.descriptor { s with files := s.announced opened } = .ok d →
            Files.Keeps (· = place) opened (s.ready opened d) ∧
            LogHolds s (s.ready opened d) place (before ++ s.logged 0 (entries.take 2))
              executable ∧
            (∀ fault, (s.starter (s.ready opened d)).spawn d.invocation = .error fault →
              outcome.shown = (1, [], line ("Error: " ++ fault.message))) ∧
            ∀ server, (s.starter (s.ready opened d)).spawn d.invocation = .ok server →
              let e := server s.input true
              let status := match e.exit with
                | .exited status => status.toNat
                | .signalled _ => 1
              outcome.shown = (status, e.output, e.errors) ∧
              (∃ t code, Relay.State.Completes .accepting s.input e t code) ∧
              ∀ t code, Relay.State.Completes .accepting s.input e t code →
                t.output.passed = e.output ∧ code = status := by
  refine ⟨run s launched, by simp only [perform, hparse], ?_, ?_⟩
  · intro fault hfault
    rw [run_of_no_directory hfault]
    exact ⟨rfl, rfl⟩
  intro made hmade
  obtain ⟨opened, hopened⟩ := hlog made hmade
  have hopen := openLog_eq_ok hmade hopened
  obtain ⟨place, before, executable, hplace, hnode⟩ := Files.node?_of_append hopened
  have hholds : LogHolds s opened place before executable :=
    ⟨hplace, by rw [hnode, List.append_nil]⟩
  refine ⟨opened, place, before, executable, hopened, hholds, log_run hopen hplace, ?_, ?_, ?_⟩
  · rw [take_one_launch]
    exact hholds.announced
  · intro obstacle hobstacle
    rw [shown_run hopen, shown_launch_of_error hobstacle]
    rfl
  intro d hd
  have hshown := (shown_run hopen).trans (shown_launch_of_ok hd)
  refine ⟨keeps_ready hplace hnode, ?_, ?_, ?_⟩
  · rw [take_two_launch hd]
    exact hholds.ready d
  · intro fault hfault
    rw [hshown, hfault]
    rfl
  intro server hserver e status
  have hstatus : e.exit.code = status := by
    show e.exit.code = match e.exit with
      | .exited status => status.toNat
      | .signalled _ => 1
    cases e.exit <;> rfl
  rw [← hstatus, hshown, hserver]
  exact ⟨rfl, (Relay.State.exists_completes .accepting s.input e).imp fun _ h => ⟨_, h⟩,
    fun _ _ hcompletes => hcompletes.delivers⟩

/-- The server that answers with its input is started through the settings file, and all of its
answer may have been passed on when the relay returns. -/
theorem perform_run_withQuotes :
    let args := [Utf8.encode "run", Utf8.encode "--extension-path=/ext",
      Utf8.encode "--settings=settings.json"]
    Arguments.parse args = .ok (.run (settingsAt "settings.json")) ∧
    ∃ made opened outcome,
      withQuotes.files.ensureDirectory withQuotes.current
        withQuotes.dataDirectory = .ok made ∧
      made.append withQuotes.current withQuotes.logPath [] = .ok opened ∧
      perform withQuotes args = .ok outcome ∧ outcome.shown = (3, Utf8.encode "ping", []) := by
  intro args
  have hpaths : (settingsAt "settings.json").hasPaths := ⟨by decide, by decide⟩
  have hparse : Arguments.parse args = .ok (.run (settingsAt "settings.json")) :=
    LaunchArguments.parse_run hpaths
  let d := Descriptor.build (Utf8.encode "/ext") (some "x.jar") withQuotes.block.snapshot
  obtain ⟨made, opened, hmade, hopened, hdescriptor⟩ : ∃ made opened,
      withQuotes.files.ensureDirectory withQuotes.current withQuotes.dataDirectory = .ok made ∧
      made.append withQuotes.current withQuotes.logPath [] = .ok opened ∧
      (settingsAt "settings.json").descriptor
        { withQuotes with files := withQuotes.announced opened } = .ok d :=
    ⟨_, _, rfl, rfl, rfl⟩
  have hlog : ∀ made', withQuotes.files.ensureDirectory withQuotes.current
      withQuotes.dataDirectory = .ok made' →
        ∃ opened, made'.append withQuotes.current withQuotes.logPath [] = .ok opened := by
    intro made' hmade'
    obtain rfl := Except.ok.inj (hmade.symm.trans hmade')
    exact ⟨opened, hopened⟩
  obtain ⟨outcome, hperform, -, hruns⟩ := perform_run hparse hlog
  obtain ⟨opened', _, _, _, hopened', -, -, -, -, hlaunched⟩ := hruns made hmade
  obtain rfl : opened = opened' := Except.ok.inj (hopened.symm.trans hopened')
  obtain ⟨-, -, -, hserved⟩ := hlaunched _ hdescriptor
  have hspawned := spawn_withQuotes (withQuotes.ready opened d)
  exact ⟨hparse, made, opened, outcome, hmade, hopened, hperform, (hserved _ hspawned).1⟩

end XmlSupport.Cli
