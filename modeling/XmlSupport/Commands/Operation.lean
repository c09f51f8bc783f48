import XmlSupport.Commands.Builtin

/-!
# Operations on a registry

A history of a registry is a list of operations, each with the replies that it
would get. An operation that fails changes nothing.
-/

namespace XmlSupport.Commands

open Session

/-- What can be asked of a registry and of the client's own commands. -/
inductive Call where
  | ids
  | contains (id : String)
  | execute (id : String) (arguments : List Json)
  | showReferences (uri : String) (position : Document.Position)
  | openSettings (id : Option String)

inductive Answer where
  | ids (ids : List String)
  | known (isKnown : Bool)
  | value (value : Option Json)

def Call.perform (r : Registry) : Call → Interaction Answer
  | .ids => .done (.ids r.ids)
  | .contains id => .done (.known (r.contains id))
  | .execute id arguments => do return .value (← r.execute id arguments)
  | .showReferences uri position => do
    Commands.showReferences uri position
    return .value none
  | .openSettings id => do return .value (← Commands.openSettings id)

inductive Operation where
  | call (call : Call)
  | register (id : String) (handler : Handler)
  | registerBuiltin

def Operation.perform (r : Registry) : Operation → Interaction (Registry × Answer)
  | .call c => do return (r, ← c.perform r)
  | .register id handler => do return (← r.register id handler, .value none)
  | .registerBuiltin => do return (← Commands.registerBuiltin r, .value none)

/-- Performs operations one after the other. -/
def Registry.history (r : Registry) : List (Operation × Answers) → List (Outcome Answer)
  | [] => []
  | (operation, answers) :: rest =>
    let o := (operation.perform r).run answers
    match o.result with
    | .ok (r', answer) => ⟨o.requests, o.log, .ok answer⟩ :: r'.history rest
    | .error e => ⟨o.requests, o.log, .error e⟩ :: r.history rest

end XmlSupport.Commands
