import XmlSupport.Log.Entry
import XmlSupport.Session.Request

/-!
# Interactions

A course of action that depends on the replies it gets: log entries and
requests in order, ending in a value or an error. Nothing follows an error.
-/

namespace XmlSupport.Session

inductive Interaction (α : Type) where
  | done (value : α)
  | failed (error : Error)
  | note (entry : Log.Entry) (next : Interaction α)
  | ask (request : Request) (next : request.Reply → Interaction α)

/-- What others see of an interaction that has run, and how it ended. -/
structure Outcome (α : Type) where
  requests : List Request
  log : List Log.Entry
  result : Except Error α

namespace Interaction

variable {α β : Type}

def bind : Interaction α → (α → Interaction β) → Interaction β
  | .done a, f => f a
  | .failed e, _ => .failed e
  | .note entry next, f => .note entry (next.bind f)
  | .ask request next, f => .ask request fun reply => (next reply).bind f

instance : Monad Interaction where
  pure := .done
  bind := .bind

def log (entry : Log.Entry) : Interaction Unit := .note entry (.done ())

def request (r : Request) : Interaction r.Reply := .ask r .done

/-- Goes on with a value or ends with its error. -/
def ofExcept : Except Error α → Interaction α
  | .ok a => .done a
  | .error e => .failed e

/-- Goes on with what a server gave or ends with its failure. -/
def ofReply : Except Client.Failure α → Interaction α
  | .ok a => .done a
  | .error failure => .failed (.client failure)

def run (answers : Answers) : Interaction α → Outcome α
  | .done a => ⟨[], [], .ok a⟩
  | .failed e => ⟨[], [], .error e⟩
  | .note entry next =>
    let o := next.run answers
    ⟨o.requests, entry :: o.log, o.result⟩
  | .ask request next =>
    let o := (next (answers request)).run answers
    ⟨request :: o.requests, o.log, o.result⟩

end Interaction
end XmlSupport.Session
