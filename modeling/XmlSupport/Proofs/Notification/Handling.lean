import XmlSupport.Proofs.Notification.Message
import XmlSupport.Proofs.Session.Run
import XmlSupport.Session.Extension

/-!
# What a notification leads to

A notification of another kind leads to nothing, and so does a message of a
severity without a channel. Any other message is shown once, and the reply
alone decides what follows: the first command under the chosen title is run, or
nothing is. What the editor says of that command is passed on.
-/

namespace XmlSupport.Notification

open Session

theorem Channel.ofSeverity_eq_some_iff {severity : Int32} {channel : Channel} :
    ofSeverity severity = some channel ↔
      (severity, channel) ∈ [(1, error), (2, warning), (3, information)] := by
  unfold ofSeverity
  by_cases h1 : severity = 1
  · subst h1
    simp [eq_comm]
  by_cases h2 : severity = 2
  · subst h2
    simp [eq_comm]
  by_cases h3 : severity = 3
  · subst h3
    simp [eq_comm]
  simp [h1, h2, h3]

theorem Channel.ofSeverity_eq_none_iff {severity : Int32} :
    ofSeverity severity = none ↔ severity ∉ [1, 2, 3] := by
  unfold ofSeverity
  by_cases h1 : severity = 1
  · simp [h1]
  by_cases h2 : severity = 2
  · simp [h2]
  by_cases h3 : severity = 3
  · simp [h3]
  simp [h1, h2, h3]

/-- The request that runs a command. -/
def Command.execution (c : Command) : Request :=
  .executeCommand c.command (c.arguments.getD [])

/-- The request that shows a message. -/
def Message.presentation (m : Message) (channel : Channel) : Request :=
  .showMessage channel m.message ((m.commands.getD []).map (·.title))

/-- How the reply to a shown message is taken. -/
def Message.followUp (m : Message) : Option String → Interaction Unit
  | none => .done ()
  | some selection =>
    match (m.commands.getD []).find? (·.title == selection) with
    | none => Interaction.log (noCommandTitled selection)
    | some c => runCommand c

variable {m : Message} {c : Command} {title : String} {params : Json}

theorem present_eq (channel : Channel) :
    present channel m = .ask (m.presentation channel) m.followUp := by
  refine congrArg (Interaction.ask (m.presentation channel)) (funext fun selection => ?_)
  cases selection with
  | none => rfl
  | some title => rfl

theorem Message.followUp_of_unmatched (h : ∀ c ∈ m.commands.getD [], c.title ≠ title) :
    m.followUp (some title) = Interaction.log (noCommandTitled title) := by
  have hfind : (m.commands.getD []).find? (·.title == title) = none := by
    simpa [List.find?_eq_none] using h
  simp only [followUp, hfind]

/-- Of several commands under one title the first is meant. -/
theorem Message.followUp_of_first {before after : List Command}
    (hsplit : m.commands.getD [] = before ++ c :: after)
    (hfirst : ∀ b ∈ before, b.title ≠ c.title) :
    m.followUp (some c.title) = runCommand c := by
  have hfind : (m.commands.getD []).find? (·.title == c.title) = some c := by
    rw [hsplit, List.find?_append, List.find?_eq_none.2 (by simpa using hfirst)]
    simp
  simp only [followUp, hfind]

theorem handle_of_ne {name : String} (h : name ≠ method) :
    handle name params = Interaction.log (Log.debug ("Ignoring notification " ++ name)) :=
  if_neg h

theorem handle_of_not_written (h : ∀ m : Message, ¬m.WrittenAs params) :
    ∃ mismatch, handle method params = .failed (.invalidNotification method mismatch) := by
  cases hdecode : Message.decode params with
  | ok m => exact absurd (Message.decode_eq_ok_iff.1 hdecode) (h m)
  | error mismatch =>
    refine ⟨mismatch, ?_⟩
    simp only [handle, decodeParams, hdecode]
    rfl

theorem handle_of_written (h : m.WrittenAs params) : handle method params = handleMessage m := by
  simp only [handle, decodeParams, Message.decode_eq_ok_iff.2 h]
  rfl

variable (answers : Answers)

theorem run_runCommand :
    let o := (runCommand c).run answers
    o.requests = [c.execution] ∧
      o.result = (answers c.execution : Except Error (Option Json)).map fun _ => () := by
  rw [runCommand, Interaction.run_request_bind]
  show _ ∧ _ = Except.map _ (answers (.executeCommand c.command (c.arguments.getD [])) :
    Except Error (Option Json))
  cases (answers (.executeCommand c.command (c.arguments.getD [])) :
    Except Error (Option Json)) with
  | error e => exact ⟨rfl, rfl⟩
  | ok value => exact ⟨rfl, rfl⟩

theorem run_followUp_of_unmatched {reply : Option String}
    (h : ∀ c ∈ m.commands.getD [], reply ≠ some c.title) :
    let o := (m.followUp reply).run answers
    o.requests = [] ∧ o.result = .ok () := by
  cases reply with
  | none => exact ⟨rfl, rfl⟩
  | some title =>
    have hne : ∀ c ∈ m.commands.getD [], c.title ≠ title := by
      intro c hc heq
      exact h c hc (congrArg some heq.symm)
    rw [Message.followUp_of_unmatched hne]
    exact ⟨rfl, rfl⟩

/-- Only a command of the message is run, and only under the chosen title. -/
theorem exists_of_mem_requests_followUp {r : Request} {reply : Option String}
    (h : r ∈ ((m.followUp reply).run answers).requests) :
    ∃ c ∈ m.commands.getD [], reply = some c.title ∧ c.execution = r ∧
      ((m.followUp reply).run answers).requests = [r] := by
  cases reply with
  | none => cases h
  | some selection =>
    cases hfind : (m.commands.getD []).find? (·.title == selection) with
    | none =>
      simp only [Message.followUp, hfind] at h
      cases h
    | some c =>
      simp only [Message.followUp, hfind, run_runCommand, List.mem_singleton] at h ⊢
      have htitle : c.title = selection := by simpa using List.find?_some hfind
      exact ⟨c, List.mem_of_find?_eq_some hfind, by rw [htitle], h.symm, by rw [h]⟩

theorem run_handle_of_no_channel (h : m.WrittenAs params)
    (hchannel : Channel.ofSeverity m.severity = none) :
    (handle method params).run answers = ⟨[], [], .ok ()⟩ := by
  simp only [handle_of_written h, handleMessage, hchannel]
  rfl

theorem run_handle_of_channel {channel : Channel} (h : m.WrittenAs params)
    (hchannel : Channel.ofSeverity m.severity = some channel) :
    let o := (m.followUp (answers (m.presentation channel))).run answers
    (handle method params).run answers =
      ⟨m.presentation channel :: o.requests, o.log, o.result⟩ := by
  simp only [handle_of_written h, handleMessage, hchannel, present_eq]
  rfl

/-- A command runs only if it is one of a message that was shown, and its title was chosen. -/
theorem exists_of_mem_requests_handle {name command : String} {arguments : List Json}
    (h : .executeCommand command arguments ∈ ((handle name params).run answers).requests) :
    ∃ m : Message, m.WrittenAs params ∧ ∃ c ∈ m.commands.getD [],
      c.execution = .executeCommand command arguments ∧ ∃ channel,
        ((handle name params).run answers).requests = [m.presentation channel, c.execution] ∧
        answers (m.presentation channel) = some c.title := by
  by_cases hname : name = method
  · subst hname
    by_cases hwritten : ∃ m : Message, m.WrittenAs params
    · obtain ⟨m, hm⟩ := hwritten
      cases hchannel : Channel.ofSeverity m.severity with
      | none =>
        rw [run_handle_of_no_channel answers hm hchannel] at h
        cases h
      | some channel =>
        rw [run_handle_of_channel answers hm hchannel] at h ⊢
        rcases List.mem_cons.1 h with h | h
        · cases h
        · obtain ⟨c, hc, htitle, hrun, hrequests⟩ := exists_of_mem_requests_followUp answers h
          exact ⟨m, hm, c, hc, hrun, channel, by rw [hrequests, hrun], htitle⟩
    · obtain ⟨mismatch, hfailed⟩ := handle_of_not_written (not_exists.1 hwritten)
      rw [hfailed] at h
      cases h
  · rw [handle_of_ne hname] at h
    cases h

theorem run_perform_notify (e : Extension) (name : String) (params : Json) :
    let o := (handle name params).run answers
    (e.perform (.notify name params)).run answers =
      ⟨o.requests, o.log, o.result.map fun _ => .value none⟩ :=
  Interaction.run_bind_done answers _ _

/-- A notification shows at most one message and runs at most the one command
that is chosen from it, the first under its title. Nothing is shown for another
method, for parameters that are no message or for a severity without a channel. -/
theorem perform_notify (e : Extension) (name : String) (params : Json) :
    let o := (e.perform (.notify name params)).run answers
    (name ≠ "xml/actionableNotification" → o.requests = [] ∧ o.result = .ok (.value none)) ∧
    (name = "xml/actionableNotification" →
      ((∀ m : Message, ¬m.WrittenAs params) → o.requests = [] ∧
        ∃ mismatch,
          o.result = .error (.invalidNotification "xml/actionableNotification" mismatch)) ∧
      ∀ m : Message, m.WrittenAs params →
        (m.severity ∉ [1, 2, 3] → o = ⟨[], [], .ok (.value none)⟩) ∧
        ∀ channel, (m.severity, channel) ∈ [(1, .error), (2, .warning), (3, .information)] →
          let commands := m.commands.getD []
          let shown := Request.showMessage channel m.message (commands.map (·.title))
          let reply : Option String := answers shown
          ((∀ c ∈ commands, reply ≠ some c.title) →
            o.requests = [shown] ∧ o.result = .ok (.value none)) ∧
          ∀ before c after, commands = before ++ c :: after → reply = some c.title →
            (∀ b ∈ before, b.title ≠ c.title) →
              let execution := Request.executeCommand c.command (c.arguments.getD [])
              let done : Except Error (Option Json) := answers execution
              o.requests = [shown, execution] ∧ o.result = done.map fun _ => .value none) ∧
    ∀ command arguments, .executeCommand command arguments ∈ o.requests →
      ∃ m : Message, m.WrittenAs params ∧ ∃ c ∈ m.commands.getD [],
        c.command = command ∧ c.arguments.getD [] = arguments ∧ ∃ channel,
          let shown := Request.showMessage channel m.message ((m.commands.getD []).map (·.title))
          let reply : Option String := answers shown
          o.requests = [shown, .executeCommand command arguments] ∧ reply = some c.title := by
  intro o
  have ho : o = _ := run_perform_notify answers e name params
  refine ⟨fun hname => ?_, fun hname => ?_, fun command arguments hmem => ?_⟩
  · rw [ho, handle_of_ne hname]
    exact ⟨rfl, rfl⟩
  · obtain rfl : name = method := hname
    refine ⟨fun hwritten => ?_, fun m hm => ⟨fun hseverity => ?_, fun channel hchannel => ?_⟩⟩
    · obtain ⟨mismatch, hfailed⟩ := handle_of_not_written hwritten
      rw [ho, hfailed]
      exact ⟨rfl, mismatch, rfl⟩
    · rw [ho, run_handle_of_no_channel answers hm (Channel.ofSeverity_eq_none_iff.2 hseverity)]
      rfl
    · rw [run_handle_of_channel answers hm (Channel.ofSeverity_eq_some_iff.2 hchannel)] at ho
      refine ⟨fun hreply => ?_, fun before c after hsplit hreply hfirst => ?_⟩
      · obtain ⟨hrequests, hresult⟩ := run_followUp_of_unmatched answers hreply
        rw [ho]
        exact ⟨congrArg _ hrequests, congrArg (Except.map _) hresult⟩
      · have hfollow : m.followUp (answers (m.presentation channel)) = runCommand c := by
          rw [show answers (m.presentation channel) = some c.title from hreply,
            Message.followUp_of_first hsplit hfirst]
        obtain ⟨hrequests, hresult⟩ := run_runCommand (c := c) answers
        rw [ho, hfollow, hrequests, hresult]
        exact ⟨rfl, (comp_map _ _ (answers c.execution : Except Error (Option Json))).symm⟩
  · rw [ho] at hmem ⊢
    obtain ⟨m, hm, c, hc, hrun, channel, hrequests, hreply⟩ :=
      exists_of_mem_requests_handle answers hmem
    obtain ⟨hcommand, harguments⟩ := Request.executeCommand.inj hrun
    rw [hrun] at hrequests
    exact ⟨m, hm, c, hc, hcommand, harguments, channel, hrequests, hreply⟩

end XmlSupport.Notification
