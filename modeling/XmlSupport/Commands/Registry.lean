import XmlSupport.Session.Interaction

/-!
# The command registry

Commands by identifier. A later registration replaces an earlier one under the
same identifier.
-/

namespace XmlSupport.Commands

open Session

/-- What a command does with its arguments; it may end without a value. -/
abbrev Handler : Type := List Json → Interaction (Option Json)

structure Registry where
  handlers : SortedMap String Handler

namespace Registry

def empty : Registry := ⟨.empty⟩

def insert (r : Registry) (id : String) (handler : Handler) : Registry :=
  ⟨r.handlers.insert id handler⟩

/-- The registered identifiers in ascending order. -/
def ids (r : Registry) : List String := r.handlers.keys

def contains (r : Registry) (id : String) : Bool := r.handlers.contains id

def registering (id : String) : Log.Entry := Log.debug ("Registering command " ++ id)

def register (r : Registry) (id : String) (handler : Handler) : Interaction Registry := do
  Interaction.log (registering id)
  return r.insert id handler

def execute (r : Registry) (id : String) (arguments : List Json) : Interaction (Option Json) :=
  match r.handlers.find? id with
  | some handler => handler arguments
  | none => .failed (.unknownCommand id)

end Registry
end XmlSupport.Commands
