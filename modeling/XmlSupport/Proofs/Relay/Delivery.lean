import XmlSupport.Relay.Steps

/-!
# What a relay delivers

One invariant holds in every state that a relay can come to, whatever the order
of the steps. From it follows that both directions deliver prefixes of what they
are given, and that a relay which returns a status has delivered all of the
server's output unless its pump came to grief.
-/

namespace XmlSupport.Relay

open Machine

namespace Conduit

theorem Move.pump_eq {c c' : Conduit} (h : Move c c') :
    c.pump = .running ∧ (c'.pump = .running ∨ c'.pump = .failed ∨ c'.pump = .crashed) := by
  cases h <;> simp

theorem passed_isPrefix_content (c : Conduit) : c.passed <+: c.content := by
  rw [content, List.append_assoc]
  exact List.prefix_append _ _

theorem abort_eq (c : Conduit) : c.abort.content = c.content ∧ c.abort.passed = c.passed := by
  unfold abort
  split <;> exact ⟨rfl, rfl⟩

theorem passed_eq_content {c : Conduit} (hunread : c.unread = []) (hheld : c.held = []) :
    c.passed = c.content := by
  simp only [content, hunread, hheld, List.append_nil]

end Conduit

theorem Stage.hasServer_of_hasNoticed {stage : Stage} (h : stage.hasNoticed = true) :
    stage.hasServer = true := by
  cases stage with
  | starting | refused fault => cases h
  | waiting | closing exit | returned result => rfl

theorem Stage.eq_returned_of_result? {stage : Stage} {code : Nat}
    (h : stage.result? = some (.ok code)) : stage = .returned (.ok code) := by
  unfold result? at h
  split at h
  all_goals cases h
  rfl

namespace State

/-- What holds of a relay of some input at any time. -/
structure Sound (input : Bytes) (s : State) : Prop where
  input_content : s.input.content = input
  output_content : s.output.content = s.written
  received : s.received <+: s.input.passed
  unstarted : s.stage.hasServer = false →
    s.input = ⟨.idle, input, [], []⟩ ∧ s.output = ⟨.idle, [], [], []⟩
  output_pump : s.stage.hasServer = true →
    s.output.pump = .running ∨ s.output.pump = .finished ∨
      s.output.pump = .failed ∨ s.output.pump = .crashed
  finished : s.output.pump = .finished →
    s.output.unread = [] ∧ s.output.held = [] ∧ s.isOpen = false
  noticed : ∀ exit, s.stage = .closing exit → s.exit = some exit
  returned : ∀ code, s.stage = .returned (.ok code) →
    s.output.pump ≠ .running ∧ ∃ exit, s.exit = some exit ∧ exit.code = code

theorem sound_initial (input : Bytes) : Sound input (initial input) where
  input_content := rfl
  output_content := rfl
  received := List.prefix_refl []
  unstarted _ := ⟨rfl, rfl⟩
  output_pump := nofun
  finished := nofun
  noticed := nofun
  returned := nofun

variable {input : Bytes} {s t : State}

/-- Nothing is passed on before there is a server. -/
theorem Sound.hasServer_of_running (hs : Sound input s)
    (h : s.input.pump = .running ∨ s.output.pump = .running) : s.stage.hasServer = true := by
  rw [← Bool.not_eq_false]
  intro hserver
  obtain ⟨hinput, houtput⟩ := hs.unstarted hserver
  rw [hinput, houtput] at h
  rcases h with h | h
  · cases h
  · cases h

theorem Step.sound (h : Step s t) (hs : Sound input s) : Sound input t := by
  cases h with
  | refuse fault h =>
    have hserver : s.stage.hasServer = false := by rw [h]; rfl
    exact { hs with
      unstarted := fun _ => hs.unstarted hserver
      output_pump := fun h => by cases h
      noticed := fun _ h => by cases h
      returned := fun _ h => by cases h }
  | start h =>
    have hserver : s.stage.hasServer = false := by rw [h]; rfl
    exact { hs with
      unstarted := fun h => by cases h
      output_pump := fun _ => .inl rfl
      finished := fun h => by cases h
      noticed := fun _ h => by cases h
      returned := fun _ h => by cases h }
  | moveInput c h =>
    have hserver := hs.hasServer_of_running (.inl h.pump_eq.1)
    exact { hs with
      input_content := h.content_eq.trans hs.input_content
      received := hs.received.trans h.isPrefix_passed
      unstarted := fun hno => absurd hserver (by simp [hno]) }
  | moveOutput c h =>
    -- a relay that has returned has no running pump here, so this is no later step
    obtain ⟨hrunning, hpump⟩ := h.pump_eq
    have hserver := hs.hasServer_of_running (.inr hrunning)
    exact { hs with
      output_content := h.content_eq.trans hs.output_content
      unstarted := fun hno => absurd hserver (by simp [hno])
      output_pump := fun _ => hpump.imp_right .inr
      finished := fun (hfinished : c.pump = .finished) => by simp [hfinished] at hpump
      returned := fun code hcode => absurd hrunning (hs.returned code hcode).1 }
  | finishInput h =>
    have hserver := hs.hasServer_of_running (.inl h.1)
    exact { hs with
      unstarted := fun hno => absurd hserver (by simp [hno]) }
  | finishOutput h closed =>
    have hserver := hs.hasServer_of_running (.inr h.1)
    exact { hs with
      unstarted := fun hno => absurd hserver (by simp [hno])
      output_pump := fun _ => .inr (.inl rfl)
      finished := fun _ => ⟨h.2.1, h.2.2, closed⟩
      returned := fun code hcode => absurd h.1 (hs.returned code hcode).1 }
  | receive chunk rest running h =>
    exact { hs with
      received := ⟨rest, h.symm⟩ }
  | produce chunk running h =>
    have hcontent : s.output.content ++ chunk = s.written ++ chunk :=
      congrArg (· ++ chunk) hs.output_content
    exact { hs with
      output_content := by simpa [Conduit.content] using hcontent
      unstarted := fun hno => absurd running (by simp [hno])
      finished := fun hfinished => absurd h (by simp [(hs.finished hfinished).2.2]) }
  | close running =>
    exact { hs with
      finished := fun hfinished => ⟨(hs.finished hfinished).1, (hs.finished hfinished).2.1, rfl⟩ }
  | terminate exit running h =>
    -- the server ends once, so what has been noticed of its end stays true
    exact { hs with
      noticed := fun exit' hclosing => absurd (hs.noticed exit' hclosing) (by simp [h])
      returned := fun code hcode => by
        obtain ⟨-, exit', hexit, -⟩ := hs.returned code hcode
        simp [h] at hexit }
  | lose fault waiting =>
    exact { hs with
      unstarted := fun h => by cases h
      output_pump := fun _ => hs.output_pump (by rw [waiting]; rfl)
      noticed := fun _ h => by cases h
      returned := fun _ h => by cases h }
  | notice exit waiting h =>
    exact { hs with
      unstarted := fun h => by cases h
      output_pump := fun _ => hs.output_pump (by rw [waiting]; rfl)
      noticed := fun exit' hclosing => by cases hclosing; exact h
      returned := fun _ h => by cases h }
  | abortInput h =>
    obtain ⟨hcontent, hpassed⟩ := s.input.abort_eq
    have hserver := Stage.hasServer_of_hasNoticed h
    exact { hs with
      input_content := hcontent.trans hs.input_content
      received := hpassed ▸ hs.received
      unstarted := fun hno => absurd hserver (by simp [hno]) }
  | conclude exit closing h =>
    exact { hs with
      unstarted := fun h => by cases h
      output_pump := fun _ => hs.output_pump (by rw [closing]; rfl)
      noticed := fun _ h => by cases h
      returned := fun code hcode => by
        cases hcode
        exact ⟨h, exit, hs.noticed exit closing, rfl⟩ }

theorem Reachable.sound (h : Reachable input s) : Sound input s := by
  induction h with
  | initial => exact sound_initial input
  | step _ hstep ih => exact hstep.sound ih

variable {code : Nat}

/-- A relay that has returned a status returns that of the server, and the output is over. -/
theorem Sound.exit_of_result (hs : Sound input s) (hresult : s.stage.result? = some (.ok code)) :
    s.output.pump ∈ [.finished, .failed, .crashed] ∧
      ∃ exit, s.exit = some exit ∧ exit.code = code := by
  have hstage := Stage.eq_returned_of_result? hresult
  have hpump := hs.output_pump (by rw [hstage]; rfl)
  obtain ⟨hrunning, hexit⟩ := hs.returned code hstage
  exact ⟨by simpa [hrunning] using hpump, hexit⟩

/-- It has passed on all that the server wrote, unless the pump of the output came to grief. -/
theorem Sound.passed_eq_written (hs : Sound input s)
    (hresult : s.stage.result? = some (.ok code)) (hpump : s.output.pump ∉ [.failed, .crashed]) :
    s.output.passed = s.written := by
  have hfinished : s.output.pump = .finished :=
    (List.mem_cons.1 (hs.exit_of_result hresult).1).resolve_right hpump
  obtain ⟨hunread, hheld, -⟩ := hs.finished hfinished
  exact (Conduit.passed_eq_content hunread hheld).trans hs.output_content

end State
end XmlSupport.Relay
