import XmlSupport.SortedMap
import XmlSupport.Text.Utf8

/-!
# Process environments

Variables and their values are byte strings, each variable stands once, and
they are listed in the order of the variables' bytes. A started program is
handed a block of entries instead, and finds the variables in it: an equals sign
in a name divides the entry there, so that a variable may stand twice.
-/

namespace XmlSupport.Machine

abbrev Environment : Type := SortedMap Bytes Bytes

namespace Environment

def get? (env : Environment) (name : String) : Option Bytes := env.find? (Utf8.encode name)

/-- The value of a variable, if it is text. -/
def text? (env : Environment) (name : String) : Option String := (env.get? name).bind Utf8.decode?

/-- The entries whose variable and value are both text. -/
def textEntries (env : Environment) : List (String × String) :=
  env.entries.filterMap fun (k, v) => do return (← Utf8.decode? k, ← Utf8.decode? v)

def equalsSign : UInt8 := 61

/-- The entries that a started program is handed: a name, an equals sign and a value each. -/
abbrev Block : Type := List Bytes

namespace Block

def ofEnvironment (env : Environment) : Block :=
  env.entries.map fun (name, value) => name ++ equalsSign :: value

/-- The variable of an entry: its name has one byte at least, and an entry without an equals sign
behind it has none. -/
def binding? (entry : Bytes) : Option (Bytes × Bytes) :=
  match entry with
  | [] => none
  | first :: rest =>
    match rest.dropWhile (· != equalsSign) with
    | [] => none
    | _ :: value => some (first :: rest.takeWhile (· != equalsSign), value)

/-- All variables; the last entry of a variable counts. -/
def snapshot (block : Block) : Environment := SortedMap.ofList (block.filterMap binding?)

/-- What a look-up of single variables finds: the first entry of a variable counts. -/
def lookUps (block : Block) : Environment := SortedMap.ofList (block.reverse.filterMap binding?)

end Block
end Environment
end XmlSupport.Machine
