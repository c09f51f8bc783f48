import XmlSupport.Launch.Descriptor
import XmlSupport.Proofs.Json.Printing
import XmlSupport.Proofs.Text.Order
import XmlSupport.Proofs.Text.Utf8

/-!
# What a launch document says

The document of a descriptor is read back as an object with the program and the
arguments of the process that the descriptor starts. Of the environment it holds
the entries that are text, and no others.
-/

namespace XmlSupport

namespace Machine.Environment

variable {env : Environment}

theorem mem_textEntries_iff {key value : String} :
    (key, value) ∈ env.textEntries ↔ (Utf8.encode key, Utf8.encode value) ∈ env.entries := by
  simp only [textEntries, List.mem_filterMap, Option.bind_eq_bind, Option.bind_eq_some_iff,
    Option.pure_def, Option.some.injEq, Prod.mk.injEq, Utf8.decode?_eq_some_iff]
  constructor
  · rintro ⟨⟨_, _⟩, hmem, _, rfl, _, rfl, rfl, rfl⟩
    exact hmem
  · intro hmem
    exact ⟨_, hmem, key, rfl, value, rfl, rfl, rfl⟩

/-- The order of the texts is that of the bytes, so it is kept. -/
theorem ascending_textEntries (env : Environment) : Entries.Ascending env.textEntries := by
  refine List.Pairwise.filterMap _ ?_ env.ascending
  rintro ⟨k, v⟩ ⟨l, w⟩ hlt ⟨key, value⟩ hkey ⟨key', value'⟩ hkey'
  simp only [Option.bind_eq_bind, Option.bind_eq_some_iff, Option.pure_def, Option.some.injEq,
    Prod.mk.injEq, Utf8.decode?_eq_some_iff] at hkey hkey'
  obtain ⟨_, rfl, _, -, rfl, -⟩ := hkey
  obtain ⟨_, rfl, _, -, rfl, -⟩ := hkey'
  exact Utf8.encode_lt_iff.1 hlt

end Machine.Environment

namespace Json

theorem areNumberless_map_string (texts : List String) :
    areNumberless (texts.map .string) = true := by
  induction texts with
  | nil => rfl
  | cons text texts ih => exact ih

theorem haveNumberless_map_string (entries : List (String × String)) :
    haveNumberless (entries.map fun (k, v) => (k, .string v)) = true := by
  induction entries with
  | nil => rfl
  | cons entry entries ih => exact ih

theorem orderedItems_map_string (texts : List String) :
    orderedItems (texts.map .string) = texts.map .string := by
  induction texts with
  | nil => rfl
  | cons text texts ih => rw [List.map_cons, orderedItems, ih]; rfl

theorem orderedMembers_map_string (entries : List (String × String)) :
    orderedMembers (entries.map fun (k, v) => (k, .string v)) =
      entries.map fun (k, v) => (k, .string v) := by
  induction entries with
  | nil => rfl
  | cons entry entries ih => rw [List.map_cons, orderedMembers, ih]; rfl

end Json

namespace Launch

open Machine

/-- The entries of an environment as the document shows them. -/
def environmentMembers (env : Environment) : List (String × Json) :=
  env.textEntries.map fun (k, v) => (k, .string v)

theorem ascending_environmentMembers (env : Environment) :
    Entries.Ascending (environmentMembers env) :=
  List.Pairwise.map _ (fun _ _ h => h) env.ascending_textEntries

theorem mem_environmentMembers_iff {env : Environment} {key : String} {value : Json} :
    (key, value) ∈ environmentMembers env ↔
      ∃ text, value = .string text ∧ (Utf8.encode key, Utf8.encode text) ∈ env.entries := by
  simp only [environmentMembers, List.mem_map, Prod.mk.injEq, ← Environment.mem_textEntries_iff]
  constructor
  · rintro ⟨⟨key, text⟩, hmem, rfl, rfl⟩
    exact ⟨text, rfl, hmem⟩
  · rintro ⟨text, rfl, hmem⟩
    exact ⟨(key, text), hmem, rfl, rfl⟩

/-- What a document has to say of a process: its program and its arguments and,
of its environment, just the entries that are text. The process starts in the
client's own directory, so neither names one. -/
structure Describes (v : Json) (i : Invocation) : Prop where
  command : v.get? "command" = some (.string i.program)
  args : v.get? "args" = some (.array (i.args.map .string))
  options : ∃ options env, v.get? "options" = some options ∧
    options.get? "env" = some (.object env) ∧ options.get? "cwd" = none ∧
    Entries.Ascending env ∧ ∀ key value, (key, value) ∈ env ↔
      ∃ text, value = .string text ∧ (Utf8.encode key, Utf8.encode text) ∈ i.env
  document_cwd : v.get? "cwd" = none
  cwd : i.cwd = none

namespace Descriptor

variable (d : Descriptor)

theorem isNumberless_documentWith (cwd : Option String) :
    (d.documentWith cwd).isNumberless = true := by
  have hargs := Json.areNumberless_map_string d.args
  have henv := Json.haveNumberless_map_string d.env.textEntries
  cases cwd <;>
    simp [documentWith, optionsJson, Json.isNumberless, Json.haveNumberless, hargs, henv]

/-- The entry for the directory, if there is one. -/
def cwdMembers (cwd : Option String) : List (String × Json) :=
  (cwd.map fun text => ("cwd", Json.string text)).toList

/-- The document with its keys in ascending order. -/
theorem ordered_documentWith (cwd : Option String) :
    (d.documentWith cwd).ordered =
      .object [("args", .array (d.args.map .string)), ("command", .string d.command),
        ("options", .object (cwdMembers cwd ++
          [("env", .object (environmentMembers d.env)), ("stdio", .string "pipe")]))] := by
  have henv : Entries.ofList (environmentMembers d.env) = environmentMembers d.env :=
    Entries.ofList_of_ascending (ascending_environmentMembers d.env)
  have hmembers : Json.orderedMembers (environmentMembers d.env) = environmentMembers d.env :=
    Json.orderedMembers_map_string _
  have hdocument (a b c : Json) : Entries.ofList [("command", a), ("args", b), ("options", c)] =
      [("args", b), ("command", a), ("options", c)] := by
    have hargs : ("args" : String) < "command" := by decide
    have hoptions : ¬("options" : String) < "args" ∧ ("args" : String) < "options" ∧
        ¬("options" : String) < "command" ∧ ("command" : String) < "options" := by decide
    simp [Entries.ofList, Entries.insert, hargs, hoptions]
  have hstdio : ¬("stdio" : String) < "env" ∧ ("env" : String) < "stdio" := by decide
  have hcwd : ("cwd" : String) < "env" ∧ ¬("stdio" : String) < "cwd" ∧
      ("cwd" : String) < "stdio" := by decide
  have hoptions (a b : Json) : Entries.ofList (("env", a) :: (cwdMembers cwd ++ [("stdio", b)])) =
      cwdMembers cwd ++ [("env", a), ("stdio", b)] := by
    cases cwd <;> simp [cwdMembers, Entries.ofList, Entries.insert, hstdio, hcwd]
  have hordered : Json.orderedMembers (cwdMembers cwd ++ [("stdio", .string "pipe")]) =
      cwdMembers cwd ++ [("stdio", .string "pipe")] := by
    cases cwd <;> rfl
  show Json.ordered (.object [("command", _), ("args", _), ("options",
    .object ([("env", .object (environmentMembers d.env))] ++ cwdMembers cwd ++
      [("stdio", _)]))]) = _
  simp [Json.ordered, Json.orderedMembers, Json.orderedItems_map_string, Json.ofMembers, henv,
    hmembers, hdocument, hoptions, hordered]

theorem describes_ordered (h : d.cwd = none) :
    Describes (d.documentWith none).ordered d.invocation := by
  rw [ordered_documentWith]
  exact ⟨rfl, rfl, ⟨_, _, rfl, rfl, rfl, ascending_environmentMembers d.env,
    fun _ _ => mem_environmentMembers_iff⟩, rfl, h⟩

/-- What is printed of a descriptor describes the process that it starts. -/
theorem exists_parse_documentWith (h : d.cwd = none) :
    ∃ v, Json.parse (d.documentWith none).pretty.toList = .ok v ∧ Describes v d.invocation :=
  ⟨_, Json.parse_pretty (d.isNumberless_documentWith none), d.describes_ordered h⟩

end Descriptor
end Launch
end XmlSupport
