import XmlSupport.Commands.Operation

/-!
# The registry of the client's own commands

After activation a registry holds the client's two commands and no others.
-/

namespace XmlSupport.Commands

open Session

namespace Registry

variable (r : Registry) (id : String)

theorem execute_empty (arguments : List Json) :
    empty.execute id arguments = .failed (.unknownCommand id) := rfl

theorem execute_insert (id' : String) (handler : Handler) (arguments : List Json) :
    (r.insert id' handler).execute id arguments =
      if id = id' then handler arguments else r.execute id arguments := by
  simp only [execute, insert, SortedMap.find?_insert]
  by_cases h : id = id'
  · simp only [if_pos h]
  · simp only [if_neg h]

/-- The registry with the client's own commands. -/
def builtin : Registry :=
  (empty.insert showReferencesId showReferencesHandler).insert openSettingsId openSettingsHandler

theorem execute_builtin (arguments : List Json) :
    builtin.execute id arguments =
      if id = openSettingsId then openSettingsHandler arguments
      else if id = showReferencesId then showReferencesHandler arguments
      else .failed (.unknownCommand id) := by
  simp only [builtin, execute_insert, execute_empty]

theorem ids_builtin : builtin.ids = [openSettingsId, showReferencesId] := by
  decide

end Registry

theorem registerBuiltin_empty :
    registerBuiltin .empty = .note (Registry.registering showReferencesId)
      (.note (Registry.registering openSettingsId) (.done .builtin)) := rfl

end XmlSupport.Commands
