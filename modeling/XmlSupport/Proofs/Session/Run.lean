import XmlSupport.Session.Interaction

/-!
# Running one part after the other

What is seen of a sequence is what is seen of its first part and, unless that
fails, of the rest behind it. So a sequence of requests stops at the first one
that is refused.
-/

namespace XmlSupport.Session

variable {α β : Type}

/-- An outcome with another behind it, which an error leaves out. -/
def Outcome.andThen (o : Outcome α) (next : α → Outcome β) : Outcome β :=
  match o.result with
  | .ok a => ⟨o.requests ++ (next a).requests, o.log ++ (next a).log, (next a).result⟩
  | .error e => ⟨o.requests, o.log, .error e⟩

namespace Interaction

variable (answers : Answers) (i : Interaction α)

theorem run_bind (f : α → Interaction β) :
    (i >>= f).run answers = (i.run answers).andThen fun a => (f a).run answers := by
  induction i with
  | done a => rfl
  | failed e => rfl
  | note entry next ih =>
    show (⟨_, entry :: _, _⟩ : Outcome β) = _
    rw [show (next.bind f).run answers = _ from ih]
    simp only [Outcome.andThen, run]
    cases (next.run answers).result <;> rfl
  | ask r next ih =>
    show (⟨r :: _, _, _⟩ : Outcome β) = _
    rw [show ((next (answers r)).bind f).run answers = _ from ih (answers r)]
    simp only [Outcome.andThen, run]
    cases ((next (answers r)).run answers).result <;> rfl

theorem run_request_bind (r : Request) (f : r.Reply → Interaction α) :
    (request r >>= f).run answers =
      let o := (f (answers r)).run answers
      ⟨r :: o.requests, o.log, o.result⟩ := rfl

/-- What only renames the value is seen as the same. -/
theorem run_bind_done (f : α → β) :
    (i >>= fun a => .done (f a)).run answers =
      ⟨(i.run answers).requests, (i.run answers).log, (i.run answers).result.map f⟩ := by
  rw [run_bind, Outcome.andThen]
  cases (i.run answers).result with
  | error e => rfl
  | ok a => simp only [run, List.append_nil, Except.map]

end Interaction

/-- The error with which a reply refuses its request, if it does. -/
def Request.refusal? : (r : Request) → r.Reply → Option Error
  | .openTextDocument _, .error e | .executeCommand _ _, .error e => some e
  | .start _ _, .error failure | .references _, .error failure => some (.client failure)
  | _, _ => none

end XmlSupport.Session
