import XmlSupport.Proofs.Relay.Delivery

/-!
# Reports are ends of relays

The report of a relay tells how a relay by steps ends, in whatever order the steps
are taken: when the server has written what it has to write and has ended, and its
output is carried as far as the client takes it, the relay returns the server's
status. One such order is that the server is handed all of the input first.
-/

namespace XmlSupport.Relay

open Machine

/-- What an output can have come to at a sink. Nothing gets through where the first write fails or
brings its writer down. -/
def Sink.Permits (sink : Sink) (c : Conduit) : Prop :=
  match sink with
  | .accepting => c.pump ∉ [.failed, .crashed]
  | .closed => c.passed = [] ∧ c.pump ≠ .crashed
  | .crashing => c.passed = [] ∧ c.pump ≠ .failed

theorem deliver_closed (bytes : Bytes) : (deliver .closed bytes).1 = [] := by
  cases bytes with
  | nil => rfl
  | cons b bytes => rfl

theorem deliver_crashing (bytes : Bytes) : (deliver .crashing bytes).1 = [] := by
  cases bytes with
  | nil => rfl
  | cons b bytes => rfl

/-- A pump that runs can bring everything to the other end. -/
theorem Conduit.exists_moves (unread passed : Bytes) :
    ∃ c, Move ⟨.running, unread, [], passed⟩ c ∧ Move c ⟨.running, [], [], passed ++ unread⟩ := by
  refine ⟨⟨.running, [], unread, passed⟩, ?_, ?_⟩
  · simpa using Move.read [] [] unread passed
  · simpa using Move.write [] [] unread passed

namespace State

variable {input : Bytes} {s : State} {unread passed : Bytes}

theorem Reachable.carryInput (h : Reachable input s)
    (hinput : s.input = ⟨.running, unread, [], passed⟩) :
    Reachable input { s with input := ⟨.running, [], [], passed ++ unread⟩ } := by
  obtain ⟨c, hread, hwrite⟩ := Conduit.exists_moves unread passed
  rw [← hinput] at hread
  exact (h.step (.moveInput s c hread)).step (.moveInput _ _ hwrite)

theorem Reachable.carryOutput (h : Reachable input s)
    (houtput : s.output = ⟨.running, unread, [], passed⟩) :
    Reachable input { s with output := ⟨.running, [], [], passed ++ unread⟩ } := by
  obtain ⟨c, hread, hwrite⟩ := Conduit.exists_moves unread passed
  rw [← houtput] at hread
  exact (h.step (.moveOutput s c hread)).step (.moveOutput _ _ hwrite)

/-- A server that has been handed its input, has written its output and has closed its pipe. -/
def served (input written : Bytes) : State where
  stage := .waiting
  input := ⟨.running, [], [], input⟩
  output := ⟨.running, written, [], []⟩
  received := input
  written := written
  isOpen := false
  exit := none

theorem reachable_served (input written : Bytes) : Reachable input (served input written) := by
  have hstart := Reachable.initial.step (.start (initial input) rfl)
  have hinput : (initial input).input.start = ⟨.running, input, [], []⟩ := rfl
  have hcarry := hstart.carryInput hinput
  have hreceive := hcarry.step (.receive _ input [] rfl (List.append_nil _).symm)
  have hproduce := hreceive.step (.produce _ written rfl rfl)
  exact hproduce.step (.close _ rfl)

/-- A server that has closed its pipe and ended without a word. -/
def silent (input : Bytes) (exit : Exit) (output : Pump) : State where
  stage := .waiting
  input := ⟨.running, input, [], []⟩
  output := ⟨output, [], [], []⟩
  received := []
  written := []
  isOpen := false
  exit := some exit

theorem reachable_silent (input : Bytes) (exit : Exit) {output : Pump}
    (h : output ∈ [.finished, .failed, .crashed]) : Reachable input (silent input exit output) := by
  have hstart := Reachable.initial.step (.start (initial input) rfl)
  have hended := (hstart.step (.close _ rfl)).step (.terminate _ exit rfl rfl)
  simp only [List.mem_cons, List.not_mem_nil, or_false] at h
  rcases h with rfl | rfl | rfl
  · exact hended.step (.finishOutput _ ⟨rfl, rfl, rfl⟩ rfl)
  · exact hended.step (.moveOutput _ _ (.fail _ _ _))
  · exact hended.step (.moveOutput _ _ (.crash _ _ _))

theorem Reachable.returned {bytes : Bytes} {s : State} {exit : Exit} (h : Reachable bytes s)
    (hstage : s.stage = .waiting) (hexit : s.exit = some exit) (hpump : s.output.pump ≠ .running) :
    Reachable bytes { s with stage := .returned (.ok exit.code) } :=
  (h.step (.notice s exit hstage hexit)).step (.conclude _ exit rfl hpump)

/-- The pumps may come to any end, and the relay returns the server's status all the same. -/
theorem exists_reachable_returned (input : Bytes) (exit : Exit) {inputEnd outputEnd : Pump}
    (hin : inputEnd ∈ [.finished, .failed, .crashed, .aborted])
    (hout : outputEnd ∈ [.finished, .failed, .crashed]) :
    ∃ s, Reachable input s ∧ s.input.pump = inputEnd ∧ s.output.pump = outputEnd ∧
      s.stage = .returned (.ok exit.code) := by
  have hsilent := reachable_silent input exit hout
  have hpump : outputEnd ≠ .running := by
    rintro rfl
    simp at hout
  simp only [List.mem_cons, List.not_mem_nil, or_false] at hin
  rcases hin with rfl | rfl | rfl | rfl
  · have hended := (hsilent.carryInput rfl).step (.finishInput _ ⟨rfl, rfl, rfl⟩)
    exact ⟨_, hended.returned rfl rfl hpump, rfl, rfl, rfl⟩
  · have hended := hsilent.step (.moveInput _ _ (.fail _ _ _))
    exact ⟨_, hended.returned rfl rfl hpump, rfl, rfl, rfl⟩
  · have hended := hsilent.step (.moveInput _ _ (.crash _ _ _))
    exact ⟨_, hended.returned rfl rfl hpump, rfl, rfl, rfl⟩
  · have hnoticed := hsilent.step (.notice _ exit rfl rfl)
    have hended := hnoticed.step (.abortInput _ rfl)
    exact ⟨_, hended.step (.conclude _ exit rfl hpump), rfl, rfl, rfl⟩

/-- A relay to a sink has returned a status, its server having written and ended as told and its
output having been carried as far as the sink takes it. -/
structure Completes (sink : Sink) (input : Bytes) (e : Execution) (t : State) (code : Nat) :
    Prop where
  reachable : Reachable input t
  result : t.stage.result? = some (.ok code)
  output : sink.Permits t.output
  written : t.written = e.output
  exit : t.exit = some e.exit

variable {sink : Sink} {input : Bytes} {e : Execution} {t : State} {code : Nat}

theorem Completes.delivers (h : Completes sink input e t code) :
    t.output.passed = (deliver sink e.output).1 ∧ code = e.exit.code := by
  obtain ⟨-, exit, hexit, hcode⟩ := h.reachable.sound.exit_of_result h.result
  obtain rfl : e.exit = exit := Option.some.inj (h.exit.symm.trans hexit)
  refine ⟨?_, hcode.symm⟩
  have houtput := h.output
  cases sink with
  | accepting => exact (h.reachable.sound.passed_eq_written h.result houtput).trans h.written
  | closed => rw [houtput.1, deliver_closed]
  | crashing => rw [houtput.1, deliver_crashing]

/-- When a server has written, its output can be carried to any sink. -/
theorem exists_reachable_carried (input written : Bytes) (sink : Sink) :
    ∃ c : Conduit, c.pump ≠ .running ∧ sink.Permits c ∧
      Reachable input { served input written with output := c } := by
  have hserved := reachable_served input written
  cases sink with
  | accepting =>
    have hfinished := (hserved.carryOutput rfl).step (.finishOutput _ ⟨rfl, rfl, rfl⟩ rfl)
    exact ⟨⟨.finished, [], [], written⟩, nofun, by simp [Sink.Permits], hfinished⟩
  | closed =>
    have hfailed := hserved.step (.moveOutput _ _ (.fail _ _ _))
    exact ⟨⟨.failed, written, [], []⟩, nofun, ⟨rfl, nofun⟩, hfailed⟩
  | crashing =>
    have hcrashed := hserved.step (.moveOutput _ _ (.crash _ _ _))
    exact ⟨⟨.crashed, written, [], []⟩, nofun, ⟨rfl, nofun⟩, hcrashed⟩

theorem exists_completes (sink : Sink) (input : Bytes) (e : Execution) :
    ∃ t, Completes sink input e t e.exit.code := by
  obtain ⟨c, hpump, hpermits, hcarried⟩ := exists_reachable_carried input e.output sink
  have hended := hcarried.step (.terminate _ e.exit rfl rfl)
  exact ⟨_, hended.returned rfl rfl hpump, rfl, hpermits, rfl, rfl⟩

end State

section Reports

variable {start : Starter} {d : Launch.Descriptor} {input : Bytes} {sink : Sink}

theorem relay_of_refused {fault : Fault} (h : start.spawn d.invocation = .error fault) :
    relay start d input sink =
      ⟨.error (.io fault), [], [], [starting d, startFailed d fault], none⟩ := by
  rw [relay, h]

theorem relay_of_spawned {server : Server} (h : start.spawn d.invocation = .ok server) :
    let e := server input sink.readsOn
    relay start d input sink =
      ⟨.ok e.exit.code, (deliver sink e.output).1, e.errors, [starting d, ended e.exit],
        some (deliver sink e.output).2⟩ := by
  rw [relay, h]

end Reports

/-- Whatever the order of the steps, both directions deliver prefixes of what they
are given. A relay returns a status only when the server has ended and its output
is over, and then it is the server's own status; unless the pump of the output has
failed or crashed, all of the output is delivered. A server that cannot be started
leaves the input unread and the output empty. What a relay reports is how the steps
end: with the fault of a start that is refused, and else, for every kind of output,
with the server's status and as much of what it wrote as the output takes. -/
theorem relay_delivers (input : Bytes) :
    (∀ s, State.Reachable input s →
      s.received <+: s.input.passed ∧ s.input.passed <+: input ∧ s.output.passed <+: s.written ∧
      (∀ fault, s.stage = .refused fault →
        s.stage.result? = some (.error (.io fault)) ∧ s.input = ⟨.idle, input, [], []⟩ ∧
          s.output.passed = []) ∧
      ∀ code, s.stage.result? = some (.ok code) →
        s.output.pump ∈ [.finished, .failed, .crashed] ∧
        (s.output.pump ∉ [.failed, .crashed] → s.output.passed = s.written) ∧
        ∃ exit, s.exit = some exit ∧ code = match exit with
          | .exited status => status.toNat
          | .signalled _ => 1) ∧
    (∀ exit : Exit, ∀ inputEnd ∈ [Pump.finished, .failed, .crashed, .aborted],
      ∀ outputEnd ∈ [Pump.finished, .failed, .crashed],
        ∃ s, State.Reachable input s ∧ s.input.pump = inputEnd ∧ s.output.pump = outputEnd ∧
          s.stage = .returned (.ok exit.code)) ∧
    ∀ (start : Starter) d sink,
      let report := relay start d input sink
      (∀ fault, start.spawn d.invocation = .error fault →
        report.result = .error (.io fault) ∧ report.output = [] ∧
          ∃ s, State.Reachable input s ∧ s.stage = .refused fault) ∧
      ∀ server, start.spawn d.invocation = .ok server →
        let e := server input sink.readsOn
        report.result = .ok e.exit.code ∧ report.errors = e.errors ∧
        (report.output = match sink with
          | .accepting => e.output
          | .closed | .crashing => []) ∧
        (∃ t code, State.Completes sink input e t code) ∧
        ∀ t code, State.Completes sink input e t code →
          t.output.passed = report.output ∧ report.result = .ok code := by
  refine ⟨fun s h => ?_, fun exit inputEnd hin outputEnd hout =>
    State.exists_reachable_returned input exit hin hout, fun start d sink => ⟨?_, ?_⟩⟩
  · have hs := h.sound
    refine ⟨hs.received, ?_, ?_, ?_, ?_⟩
    · exact hs.input_content ▸ s.input.passed_isPrefix_content
    · exact hs.output_content ▸ s.output.passed_isPrefix_content
    · intro fault hstage
      obtain ⟨hinput, houtput⟩ := hs.unstarted (by rw [hstage]; rfl)
      rw [hstage, houtput]
      exact ⟨rfl, hinput, rfl⟩
    · intro code hresult
      obtain ⟨hpump, exit, hexit, hcode⟩ := hs.exit_of_result hresult
      refine ⟨hpump, hs.passed_eq_written hresult, exit, hexit, ?_⟩
      rw [← hcode]
      cases exit <;> rfl
  · intro fault hfault
    rw [relay_of_refused hfault]
    exact ⟨rfl, rfl, _, State.Reachable.initial.step (.refuse _ fault rfl), rfl⟩
  · intro server hserver
    rw [relay_of_spawned hserver]
    refine ⟨rfl, rfl, ?_, ?_, ?_⟩
    · cases sink with
      | accepting => rfl
      | closed => exact deliver_closed _
      | crashing => exact deliver_crashing _
    · exact (State.exists_completes sink input _).imp fun _ h => ⟨_, h⟩
    · intro t code hcompletes
      obtain ⟨hpassed, rfl⟩ := hcompletes.delivers
      exact ⟨hpassed, rfl⟩

end XmlSupport.Relay
