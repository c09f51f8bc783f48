import Mathlib.Data.List.InsertIdx
import XmlSupport.Proofs.Session.Groups

/-!
# Whole sessions

Activation makes four requests, whatever is replied, and its result depends on
the reply to the last of them only. An activated extension always has the same
registry, and no step changes it; so what a session does after its activation is
one group of requests for each step, and a step does not notice the others.
-/

namespace XmlSupport.Session

open Commands Interaction Extension

/-- The server that activation starts. -/
def configuredServer (path : Bytes) (env : Machine.Environment) (answers : Answers) :
    Launch.Descriptor :=
  .ofSettings path (Settings.ofHostValue (answers (.configuration "xml.laguageServerPath"))) env

def activationRequests (server : Launch.Descriptor) : List Request :=
  [.setLanguageConfiguration "xml" .standard, .setLanguageConfiguration "xsl" .standard,
    .configuration "xml.laguageServerPath", .start server .standard]

/-- Requests that belong to activation by their kind. -/
def Request.isOfActivation : Request → Bool
  | .setLanguageConfiguration _ _ | .configuration _ | .start _ _ => true
  | _ => false

/-- Everything that a session asks of editor and server. -/
def calls (session : Outcome Extension × List (Outcome Answer)) : List Request :=
  session.1.requests ++ session.2.flatMap (·.requests)

variable (path : Bytes) (env : Machine.Environment) (answers : Answers)

/-- How activation ends, by the reply to its last request. -/
def conclude (reply : Except Client.Failure Unit) : Interaction Extension := do
  ofReply reply
  log ready
  return ⟨← registerBuiltin .empty⟩

theorem conclude_error (failure : Client.Failure) :
    conclude (.error failure) = .failed (.client failure) := rfl

theorem conclude_ok (u : Unit) :
    conclude (.ok u) = .note ready (.note (Registry.registering showReferencesId)
      (.note (Registry.registering openSettingsId) (.done ⟨.builtin⟩))) := by
  rw [conclude, registerBuiltin_empty]
  rfl

theorem run_activate :
    let server := configuredServer path env answers
    let rest := (conclude (answers (.start server .standard))).run answers
    (activate path env).run answers =
      ⟨activationRequests server ++ rest.requests, starting server.classpath :: rest.log,
        rest.result⟩ := rfl

/-- Activation asks for the start of the configured server and, whatever is replied, for nothing
after it. -/
theorem requests_activate :
    ((activate path env).run answers).requests =
      activationRequests (configuredServer path env answers) := by
  have hrest (reply : Except Client.Failure Unit) :
      ((conclude reply).run answers).requests = [] := by
    cases reply with
    | error failure => rfl
    | ok u => rw [conclude_ok]; rfl
  have hrun := congrArg Outcome.requests (run_activate path env answers)
  exact hrun.trans ((congrArg (_ ++ ·) (hrest _)).trans (List.append_nil _))

variable {path env answers}

theorem transcript_of_error {failure : Client.Failure}
    (h : answers (.start (configuredServer path env answers) .standard) = .error failure)
    (steps : List (Step × Answers)) :
    transcript path env answers steps =
      (⟨activationRequests (configuredServer path env answers),
        [starting (configuredServer path env answers).classpath], .error (.client failure)⟩,
        []) := by
  have hrun := run_activate path env answers
  simp only [h, conclude_error, run, List.append_nil] at hrun
  simp only [transcript, hrun]

theorem transcript_of_ok {u : Unit}
    (h : answers (.start (configuredServer path env answers) .standard) = .ok u)
    (steps : List (Step × Answers)) :
    transcript path env answers steps =
      (⟨activationRequests (configuredServer path env answers),
        [starting (configuredServer path env answers).classpath, ready,
          Registry.registering showReferencesId, Registry.registering openSettingsId],
        .ok ⟨.builtin⟩⟩, performAll ⟨.builtin⟩ steps) := by
  have hrun := run_activate path env answers
  simp only [h, conclude_ok, run, List.append_nil] at hrun
  simp only [transcript, hrun]

theorem isGroup_of_mem_performAll {steps : List (Step × Answers)} {outcome : Outcome Answer}
    (h : outcome ∈ performAll ⟨.builtin⟩ steps) : IsGroup outcome.requests := by
  obtain ⟨⟨step, replies⟩, -, rfl⟩ := List.mem_map.1 h
  exact ensures_run (asksGroup_perform step) replies

theorem IsGroup.filter_isOfActivation {requests : List Request} (h : IsGroup requests) :
    requests.filter Request.isOfActivation = [] := by
  cases h <;> rfl

theorem filter_isOfActivation_performAll (steps : List (Step × Answers)) :
    ((performAll ⟨.builtin⟩ steps).flatMap (·.requests)).filter Request.isOfActivation = [] := by
  rw [List.filter_flatMap, List.flatMap_eq_nil_iff]
  intro outcome houtcome
  exact (isGroup_of_mem_performAll houtcome).filter_isOfActivation

theorem performAll_ids (replies : Answers) :
    performAll ⟨.builtin⟩ [(.call .ids, replies)] =
      [⟨[], [], .ok (.ids ["xml.open.settings", "xml.show.references"])⟩] := by
  show [(⟨[], [], .ok (.ids Registry.builtin.ids)⟩ : Outcome Answer)] = _
  rw [Registry.ids_builtin]
  rfl

variable (path env answers)

/-- The requests of a session are those of its activation, each once and in order,
and then, if the server has started, one group for each step, whatever the replies.
The two commands stay registered throughout, and a step that is left out takes
only its own group with it. -/
theorem calls_transcript (steps : List (Step × Answers)) :
    let server := configuredServer path env answers
    let activation := [.setLanguageConfiguration "xml" .standard,
      .setLanguageConfiguration "xsl" .standard, .configuration "xml.laguageServerPath",
      .start server .standard]
    let session := transcript path env answers steps
    session.1.requests = activation ∧
    calls session = activation ++ session.2.flatMap (·.requests) ∧
    (calls session).filter Request.isOfActivation = activation ∧
    match (answers (.start server .standard) : Except Client.Failure Unit) with
    | .error failure => session.1.result = .error (.client failure) ∧ session.2 = []
    | .ok _ => ∃ e, session.1.result = .ok e ∧
      e.commands.ids = ["xml.open.settings", "xml.show.references"] ∧
      (∀ step, (e.perform step).Ensures fun requests _ => IsGroup requests) ∧
      session.2.length = steps.length ∧
      (∀ outcome ∈ session.2, IsGroup outcome.requests) ∧
      (∀ n replies, transcript path env answers (steps.take n ++ [(.call .ids, replies)]) =
        (session.1, session.2.take n ++
          [⟨[], [], .ok (.ids ["xml.open.settings", "xml.show.references"])⟩])) ∧
      ∀ i, transcript path env answers (steps.eraseIdx i) = (session.1, session.2.eraseIdx i) := by
  intro server activation session
  cases h : (answers (.start server .standard) : Except Client.Failure Unit) with
  | error failure =>
    have hsession : session = _ := transcript_of_error h steps
    simp only [calls, hsession]
    exact ⟨rfl, rfl, rfl, trivial, trivial⟩
  | ok u =>
    have hsession : session = _ := transcript_of_ok h steps
    simp only [calls, hsession, transcript_of_ok h, List.filter_append,
      filter_isOfActivation_performAll]
    refine ⟨rfl, rfl, rfl, ⟨.builtin⟩, rfl, Registry.ids_builtin, asksGroup_perform,
      List.length_map _, fun outcome => isGroup_of_mem_performAll, ?_, ?_⟩
    · intro n replies
      rw [← performAll_ids replies]
      simp only [performAll, List.map_append, List.map_take]
    · intro i
      simp only [performAll, List.eraseIdx_map]

end XmlSupport.Session
