import XmlSupport.Json.Mismatch
import XmlSupport.Json.Reader
import XmlSupport.Json.Skip
import XmlSupport.Settings.Basic

/-!
# Settings in a text

A settings file is an object with the server path under its key, or an array
with the server path in front. Members under other keys are passed over, and
the file is read in one pass: a fault is reported where it is met.
-/

namespace XmlSupport.Settings

open Json

/-- Why a text holds no settings. -/
inductive Fault where
  | malformed (fault : Json.Fault)
  | unfit (mismatch : Mismatch)
  deriving Repr

def Fault.message : Fault → String
  | .malformed fault => fault.message
  | .unfit mismatch => mismatch.message

def malformed (stop : Stop Json.Fault) : Stop Fault :=
  ⟨.malformed stop.fault, stop.rest, stop.extra⟩

/-- Turns faults of the grammar into faults of settings. -/
def grammar {α : Type} : Except (Stop Json.Fault) α → Except (Stop Fault) α
  | .ok a => .ok a
  | .error stop => .error (malformed stop)

def refuse {α : Type} (fault : Json.Fault) (rest : List Char) : Except (Stop Fault) α :=
  .error (.ahead (.malformed fault) rest)

def wrongType {α : Type} (found : Json) (expected : Shape) (rest : List Char) :
    Except (Stop Fault) α :=
  .error (.here (.unfit (.wrongType found expected)) rest)

/-- Refuses a value of the wrong type that begins with `c`. Scalars are read
before they are refused, arrays and objects are refused where they begin. -/
def refuseValue {α : Type} (expected : Shape) (c : Char) (rest : List Char) :
    Except (Stop Fault) α :=
  if c = '[' then wrongType (.array []) expected (c :: rest)
  else if c = '\x7b' then wrongType (.object []) expected (c :: rest)
  else
    match grammar (readScalar c rest) with
    | .error stop => .error stop
    | .ok (v, rest) => wrongType v expected rest

/-- The server path: a string, or `null` for none. -/
def readServerPath (rest : List Char) :
    Except (Stop Fault) (Option String × List Char) :=
  match dropSpace rest with
  | [] => refuse .endOfValue []
  | c :: more =>
    if c = 'n' then (grammar (readWord "ull".toList more)).map (.none, ·)
    else if c = '"' then (grammar (readString more)).map fun (s, rest) => (some s, rest)
    else refuseValue .string c more

/-- The colon between a key and its value. -/
def readColon (rest : List Char) : Except (Stop Fault) (List Char) :=
  match dropSpace rest with
  | [] => refuse .endOfObject []
  | c :: more => if c = ':' then .ok more else refuse .expectedColon (c :: more)

/-- A second server path is refused at the end of its key, or behind the
closing brace if the object ends there. -/
def refuseDuplicate {α : Type} (rest : List Char) : Except (Stop Fault) α :=
  let rest := match dropSpace rest with
    | '\x7d' :: more => more
    | rest => rest
  .error (.here (.unfit (.duplicateField serverPathKey)) rest)

/-- One member of the object, its opening quote consumed. -/
def readMember (found : Option (Option String)) (rest : List Char) :
    Except (Stop Fault) (Option (Option String) × List Char) := do
  let (key, rest) ← grammar (readString rest)
  if key = serverPathKey then
    if found.isSome then refuseDuplicate rest
    else
      let (path, rest) ← readServerPath (← readColon rest)
      return (some path, rest)
  else
    let rest ← grammar (skipValue (← readColon rest))
    return (found, rest)

/-- What follows a comma: the quote of the next key. -/
def readNextKey (rest : List Char) : Except (Stop Fault) (List Char) :=
  match dropSpace rest with
  | [] => refuse .endOfValue []
  | c :: more =>
    if c = '"' then .ok more
    else if c = '\x7d' then refuse .trailingComma (c :: more)
    else refuse .keyNotString (c :: more)

/-- What follows a member, up to the closing brace. -/
def readMembers : Nat → Option (Option String) → List Char →
    Except (Stop Fault) (Option (Option String) × List Char)
  | 0, _, rest => refuse .endOfObject rest
  | fuel + 1, found, rest =>
    match dropSpace rest with
    | [] => refuse .endOfObject []
    | c :: more =>
      if c = '\x7d' then .ok (found, more)
      else if c = ',' then do
        let rest ← readNextKey more
        let (found, rest) ← readMember found rest
        readMembers fuel found rest
      else refuse .expectedObjectCommaOrEnd (c :: more)

/-- The members of an object whose opening brace has been consumed. -/
def readObject (rest : List Char) : Except (Stop Fault) (Settings × List Char) :=
  match dropSpace rest with
  | [] => refuse .endOfObject []
  | c :: more =>
    if c = '\x7d' then .ok (none, more)
    else if c = '"' then do
      let (found, rest) ← readMember .none more
      let (found, rest) ← readMembers rest.length found rest
      return (⟨found.join⟩, rest)
    else refuse .keyNotString (c :: more)

/-- The end of an array that has given all it may hold. -/
def readArrayEnd (rest : List Char) : Except (Stop Fault) (List Char) :=
  match dropSpace rest with
  | [] => refuse .endOfList []
  | c :: more =>
    if c = ']' then .ok more
    else if c = ',' then
      match dropSpace more with
      | ']' :: more => refuse .trailingComma (']' :: more)
      | rest => refuse .trailingCharacters rest
    else refuse .trailingCharacters (c :: more)

/-- The items of an array whose opening bracket has been consumed. -/
def readArray (rest : List Char) : Except (Stop Fault) (Settings × List Char) :=
  match dropSpace rest with
  | [] => refuse .endOfList []
  | c :: more =>
    if c = ']' then .ok (none, more)
    else do
      let (path, rest) ← readServerPath (c :: more)
      return (⟨path⟩, ← readArrayEnd rest)

def readSettings (rest : List Char) : Except (Stop Fault) (Settings × List Char) :=
  match dropSpace rest with
  | [] => refuse .endOfValue []
  | c :: more =>
    if c = '\x7b' then readObject more
    else if c = '[' then readArray more
    else refuseValue (.record "Settings") c more

/-- The settings of a text that holds nothing else. -/
def parse (text : List Char) : Except (Stop Fault) Settings := do
  let (settings, rest) ← readSettings text
  match dropSpace rest with
  | [] => return settings
  | rest => refuse .trailingCharacters rest

/-- What a message says of a text without settings. -/
def reason (text : List Char) (stop : Stop Fault) : String :=
  (stop.place text).describe stop.fault.message

end XmlSupport.Settings
