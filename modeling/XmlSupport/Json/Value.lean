import XmlSupport.Number.Shortest
import XmlSupport.SortedMap

/-!
# Document values

The values that pass between editor, client and server. A number is an integer
or a binary floating point number, and the two are never confused: `1` is not
`1.0`.
-/

namespace XmlSupport

inductive Number where
  | integer (value : Int)
  | float (value : Binary64)
  deriving DecidableEq, Repr

inductive Json where
  | null
  | bool (value : Bool)
  | number (value : Number)
  | string (value : String)
  | array (items : List Json)
  | object (members : List (String × Json))
  deriving Repr, BEq

namespace Number

/-- Numbers are set in place for leading digits from `10^-5` up to `10^15`. -/
def layout : Layout := ⟨-5, 15⟩

def text : Number → List Char
  | .integer n => (toString n).toList
  | .float x => layout.render x.negative x.shortest

end Number

namespace Json

def integer (n : Int) : Json := .number (.integer n)

def ofNat (n : Nat) : Json := .number (.integer n)

/-- Objects that are passed around have their keys in ascending order, and the
last of duplicate keys wins. -/
def ofMembers (members : List (String × Json)) : Json := .object (Entries.ofList members)

def member? (key : String) : List (String × Json) → Option Json
  | [] => none
  | (k, v) :: rest => if k = key then some v else member? key rest

def get? : Json → String → Option Json
  | .object members, key => member? key members
  | _, _ => none

end Json
end XmlSupport
