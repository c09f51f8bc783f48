import XmlSupport.Json.Mismatch

/-!
# Taking values apart

Decoders of the plain shapes, and the two ways to take a record: member by
member from an object, item by item from an array. A record that comes as an
object may have more members than fields; as an array it may not.
-/

namespace XmlSupport.Json

abbrev Decoder (α : Type) : Type := Json → Except Mismatch α

namespace Decode

def string : Decoder String
  | .string s => .ok s
  | v => .error (.wrongType v .string)

def boolean : Decoder Bool
  | .bool b => .ok b
  | v => .error (.wrongType v .boolean)

def unit : Decoder Unit
  | .null => .ok ()
  | v => .error (.wrongType v .unit)

def int32 : Decoder Int32
  | .number (.integer n) =>
    if -0x80000000 ≤ n ∧ n < 0x80000000 then .ok (Int32.ofInt n) else .error (.outOfRange n .int32)
  | v => .error (.wrongType v .int32)

def uint32 : Decoder UInt32
  | .number (.integer n) =>
    if 0 ≤ n ∧ n < 0x100000000 then .ok (UInt32.ofNat n.toNat) else .error (.outOfRange n .uint32)
  | v => .error (.wrongType v .uint32)

def sequence : Decoder (List Json)
  | .array items => .ok items
  | v => .error (.wrongType v .sequence)

variable {α : Type}

def listOf (item : Decoder α) : Decoder (List α) := fun v => do
  (← sequence v).mapM item

/-- A value that may be left out by writing `null`. -/
def optional (inner : Decoder α) : Decoder (Option α)
  | .null => .ok none
  | v => (inner v).map some

/-- Any value; `null` counts as none. -/
def anything : Decoder (Option Json)
  | .null => .ok none
  | v => .ok (some v)

/-- One of several names, as a string or as the key of a one-member object around `null`. -/
def variant (variants : List (String × α)) : Decoder α
  | .string s => named s
  | .object [(s, content)] => do
    let a ← named s
    unit content
    return a
  | .object _ => .error .notSingleKey
  | v => .error (.wrongType v .enumeration)
where
  named (s : String) : Except Mismatch α :=
    match variants.lookup s with
    | some a => .ok a
    | none => .error (.unknownVariant s (variants.map (·.1)))

/-- A record, member by member from an object or item by item from an array. -/
def record (name : String) (ofMembers : List (String × Json) → Except Mismatch α)
    (ofItems : List Json → Except Mismatch α) : Decoder α
  | .object members => ofMembers members
  | .array items => ofItems items
  | v => .error (.wrongType v (.record name))

/-- The member of an object under a key, if there is one. -/
def member (key : String) (inner : Decoder α) (members : List (String × Json)) :
    Except Mismatch (Option α) :=
  match member? key members with
  | none => .ok none
  | some v => (inner v).map some

/-- A field that has to be there. -/
def required (field : String) : Option α → Except Mismatch α
  | some a => .ok a
  | none => .error (.missingField field)

/-- Takes the next item of an array, the one at `index` of a record of `fields` fields. -/
def item (name : String) (fields index : Nat) (inner : Decoder α) :
    List Json → Except Mismatch (α × List Json)
  | [] => .error (.tooShort index name fields)
  | v :: rest => (inner v).map (·, rest)

/-- Takes the next item of an array if there is one. -/
def itemOr (absent : α) (inner : Decoder α) : List Json → Except Mismatch (α × List Json)
  | [] => .ok (absent, [])
  | v :: rest => (inner v).map (·, rest)

/-- A record of an array of `length` items must have used them all. -/
def finished (length : Nat) (rest : List Json) : Except Mismatch Unit :=
  if rest.isEmpty then .ok () else .error (.tooLong length)

end Decode
end XmlSupport.Json
