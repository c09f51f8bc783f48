import XmlSupport.Proofs.Commands.Builtin
import XmlSupport.Proofs.Session.Run
import XmlSupport.Proofs.SortedMap
import XmlSupport.Proofs.Text.Order

/-!
# A registry is the history of its registrations

What a registry answers depends on the registrations that were made, in their
order, and on nothing else that happened before. The last registration under an
identifier counts, whether it is one of the client's own commands or not.
-/

namespace XmlSupport.Commands

open Session

/-- The registrations that an operation makes, in their order. -/
def Operation.registrations : Operation → List (String × Handler)
  | .call _ => []
  | .register id handler => [(id, handler)]
  | .registerBuiltin =>
    [(showReferencesId, showReferencesHandler), (openSettingsId, openSettingsHandler)]

/-- All registrations that operations make one after the other. -/
def registrations (steps : List (Operation × Answers)) : List (String × Handler) :=
  steps.flatMap (·.1.registrations)

/-- What others see of an operation when these registrations were made before it. -/
def Operation.Shows (made : List (String × Handler)) (replies : Answers) :
    Operation → Outcome Answer → Prop
  | .call .ids, o => ∃ ids : List String, o = ⟨[], [], .ok (.ids ids)⟩ ∧
      ids.Pairwise (fun a b => Utf8.encode a < Utf8.encode b) ∧
      ∀ id, id ∈ ids ↔ id ∈ made.map (·.1)
  | .call (.contains id), o => o = ⟨[], [], .ok (.known (id ∈ made.map (·.1)))⟩
  | .call (.execute id arguments), o =>
    (∀ earlier handler later, made = earlier ++ (id, handler) :: later →
      id ∉ later.map (·.1) →
        let run := (handler arguments).run replies
        o = ⟨run.requests, run.log, run.result.map .value⟩) ∧
    (id ∉ made.map (·.1) → o = ⟨[], [], .error (.unknownCommand id)⟩)
  | .call c, o => o = (c.perform .empty).run replies
  | .register id _, o => o = ⟨[], [Registry.registering id], .ok (.value none)⟩
  | .registerBuiltin, o =>
    o = ⟨[], [Registry.registering showReferencesId, Registry.registering openSettingsId],
      .ok (.value none)⟩

namespace Registry

variable (r : Registry) (made : List (String × Handler))

/-- A registry with more registrations. -/
def recording : Registry := made.foldl (fun r e => r.insert e.1 e.2) r

theorem recording_append (more : List (String × Handler)) :
    r.recording (made ++ more) = (r.recording made).recording more := List.foldl_append

theorem find?_insert (id id' : String) (handler : Handler) :
    (r.insert id' handler).handlers.find? id =
      if id = id' then some handler else r.handlers.find? id :=
  SortedMap.find?_insert r.handlers id' id handler

variable {r made} {id : String} {handler : Handler}

theorem handlers_recording (r : Registry) (made : List (String × Handler)) :
    (r.recording made).handlers =
      made.foldl (fun handlers e => handlers.insert e.1 e.2) r.handlers := by
  induction made generalizing r with
  | nil => rfl
  | cons e made ih => exact ih (r.insert e.1 e.2)

theorem find?_recording_of_not_mem (h : id ∉ made.map (·.1)) :
    (r.recording made).handlers.find? id = r.handlers.find? id := by
  rw [handlers_recording, SortedMap.find?_foldl_insert_of_not_mem h]

/-- The last registration under an identifier counts. -/
theorem find?_recording_of_last {earlier later : List (String × Handler)}
    (h : id ∉ later.map (·.1)) :
    (r.recording (earlier ++ (id, handler) :: later)).handlers.find? id = some handler := by
  rw [handlers_recording, SortedMap.find?_foldl_insert_of_last h]

theorem mem_ids_insert_iff {id' : String} :
    id ∈ (r.insert id' handler).ids ↔ id = id' ∨ id ∈ r.ids := by
  simp only [ids, SortedMap.mem_keys_iff, find?_insert]
  by_cases h : id = id'
  · simp [h]
  · simp [h]

theorem mem_ids_recording_iff : id ∈ (r.recording made).ids ↔ id ∈ made.map (·.1) ∨ id ∈ r.ids := by
  induction made generalizing r with
  | nil => simp [recording]
  | cons e made ih =>
    show id ∈ ((r.insert e.1 e.2).recording made).ids ↔ _
    rw [ih, mem_ids_insert_iff, List.map_cons, List.mem_cons, or_left_comm, or_assoc]

theorem ids_empty : empty.ids = [] := rfl

theorem ids_pairwise_encode_lt : r.ids.Pairwise (fun a b => Utf8.encode a < Utf8.encode b) :=
  List.pairwise_map.2 (r.handlers.ascending.imp Utf8.encode_lt)

theorem execute_recording_of_last {earlier later : List (String × Handler)}
    (h : id ∉ later.map (·.1)) (arguments : List Json) :
    (r.recording (earlier ++ (id, handler) :: later)).execute id arguments = handler arguments := by
  simp only [execute, find?_recording_of_last h]

theorem execute_recording_of_not_mem (h : id ∉ made.map (·.1)) (arguments : List Json) :
    (empty.recording made).execute id arguments = .failed (.unknownCommand id) := by
  simp only [execute, find?_recording_of_not_mem h]
  rfl

end Registry

namespace Operation

variable (r : Registry) (replies : Answers)

/-- What others see of an operation on a registry. -/
def outcome (op : Operation) : Outcome Answer :=
  let o := (op.perform r).run replies
  ⟨o.requests, o.log, o.result.map (·.2)⟩

theorem outcome_call (c : Call) : (call c).outcome r replies = (c.perform r).run replies := by
  have hrun := Interaction.run_bind_done replies (c.perform r) fun answer => (r, answer)
  show (⟨_, _, _⟩ : Outcome Answer) = _
  rw [show ((call c).perform r).run replies = _ from hrun]
  cases (c.perform r).run replies with
  | mk requests log result => cases result <;> rfl

theorem outcome_execute (id : String) (arguments : List Json) :
    let run := (r.execute id arguments).run replies
    (call (.execute id arguments)).outcome r replies =
      ⟨run.requests, run.log, run.result.map .value⟩ :=
  (outcome_call r replies _).trans
    (Interaction.run_bind_done replies (r.execute id arguments) Answer.value)

/-- An operation on a registry shows what the registrations before it ask for. -/
theorem outcome_shows (made : List (String × Handler)) (op : Operation) :
    op.Shows made replies (op.outcome (Registry.empty.recording made) replies) := by
  cases op with
  | call c =>
    cases c with
    | ids =>
      refine ⟨_, rfl, Registry.ids_pairwise_encode_lt, fun id => ?_⟩
      rw [Registry.mem_ids_recording_iff, Registry.ids_empty, or_iff_left List.not_mem_nil]
    | contains id =>
      have hcontains : (Registry.empty.recording made).contains id =
          decide (id ∈ made.map (·.1)) := by
        rw [Bool.eq_iff_iff, Registry.contains, SortedMap.contains_iff, decide_eq_true_eq]
        exact Registry.mem_ids_recording_iff.trans (or_iff_left List.not_mem_nil)
      exact (outcome_call _ replies _).trans (by rw [Call.perform, hcontains]; rfl)
    | execute id arguments =>
      refine ⟨fun earlier handler later hmade hlater => ?_, fun hmade => ?_⟩
      · rw [outcome_execute, hmade, Registry.execute_recording_of_last hlater]
      · rw [outcome_execute, Registry.execute_recording_of_not_mem hmade]
        rfl
    | showReferences uri position => exact outcome_call _ replies _
    | openSettings id => exact outcome_call _ replies _
  | register id handler => rfl
  | registerBuiltin => rfl

end Operation

namespace Registry

variable (r : Registry)

theorem history_cons (op : Operation) (replies : Answers) (rest : List (Operation × Answers)) :
    r.history ((op, replies) :: rest) =
      op.outcome r replies :: (r.recording op.registrations).history rest := by
  cases op with
  | call c =>
    have hrun := Interaction.run_bind_done replies (c.perform r) fun answer => (r, answer)
    rw [Operation.outcome_call, history]
    rw [show ((Operation.call c).perform r).run replies = _ from hrun]
    cases (c.perform r).run replies with
    | mk requests log result => cases result <;> rfl
  | register id handler => rfl
  | registerBuiltin => rfl

theorem history_append (before rest : List (Operation × Answers)) :
    r.history (before ++ rest) =
      r.history before ++ (r.recording (registrations before)).history rest := by
  induction before generalizing r with
  | nil => rfl
  | cons step before ih =>
    obtain ⟨op, replies⟩ := step
    rw [List.cons_append, history_cons, history_cons, ih, List.cons_append, ← recording_append]
    rfl

theorem length_history (steps : List (Operation × Answers)) :
    (r.history steps).length = steps.length := by
  induction steps generalizing r with
  | nil => rfl
  | cons step steps ih => rw [history_cons, List.length_cons, ih, List.length_cons]

/-- A call leaves the registry as it is, so only its own outcome is added. -/
theorem history_insert_call (before after : List (Operation × Answers)) (c : Call)
    (replies : Answers) :
    r.history (before ++ (.call c, replies) :: after) =
      (r.history (before ++ after)).insertIdx before.length
        ((Operation.call c).outcome (r.recording (registrations before)) replies) := by
  induction before generalizing r with
  | nil => exact r.history_cons (.call c) replies after
  | cons step before ih =>
    obtain ⟨op, replies'⟩ := step
    rw [List.cons_append, List.cons_append, history_cons, history_cons, ih, List.length_cons,
      List.insertIdx_succ_cons, ← recording_append]
    rfl

/-- Every operation on a registry shows what the registrations before it ask for: the
identifiers are those registered, in the order of their bytes, and a command is run by
the handler that was registered last under its identifier, with the arguments as they
are. A call only adds its own outcome: the others are the same without it. -/
theorem history_refines_registrations (steps : List (Operation × Answers)) :
    (empty.history steps).length = steps.length ∧
    ∀ before op replies after, steps = before ++ (op, replies) :: after →
      ∃ o, (empty.history steps)[before.length]? = some o ∧
        op.Shows (registrations before) replies o ∧
        ∀ c, op = .call c →
          empty.history steps = (empty.history (before ++ after)).insertIdx before.length o := by
  refine ⟨length_history empty steps, ?_⟩
  rintro before op replies after rfl
  refine ⟨op.outcome (empty.recording (registrations before)) replies, ?_,
    Operation.outcome_shows replies _ op, ?_⟩
  · have hlength := length_history empty before
    rw [history_append, history_cons, List.getElem?_append_right (Nat.le_of_eq hlength), hlength,
      Nat.sub_self, List.getElem?_cons_zero]
  · rintro c rfl
    exact history_insert_call empty before after c replies

end Registry
end XmlSupport.Commands
