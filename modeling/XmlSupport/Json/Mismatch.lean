import XmlSupport.Json.Printer

/-!
# Values of the wrong shape

A well-formed value may still not be what a field holds. Records are taken from
objects and from arrays in field order, and the first entry that does not fit
is reported; entries of an object are visited in the order of their keys.
-/

namespace XmlSupport.Json

/-- What a field holds. -/
inductive Shape where
  | string
  | int32
  | uint32
  | boolean
  | sequence
  | enumeration
  | unit
  | record (name : String)
  deriving DecidableEq, Repr

def Shape.message : Shape → String
  | .string => "a string"
  | .int32 => "i32"
  | .uint32 => "u32"
  | .boolean => "a boolean"
  | .sequence => "a sequence"
  | .enumeration => "string or map"
  | .unit => "unit"
  | .record name => "struct " ++ name

inductive Mismatch where
  | wrongType (found : Json) (expected : Shape)
  | outOfRange (found : Int) (expected : Shape)
  | missingField (field : String)
  | duplicateField (field : String)
  | unknownVariant (found : String) (known : List String)
  | tooShort (length : Nat) (name : String) (fields : Nat)
  | tooLong (length : Nat)
  | notSingleKey
  deriving Repr

/-- A field or variant name between backticks. -/
def ticked (s : String) : String := "`" ++ s ++ "`"

/-- How a message names a value it did not expect. -/
def describe : Json → String
  | .null => "null"
  | .bool b => "boolean " ++ ticked (String.ofList (boolText b))
  | .number (.integer n) => "integer " ++ ticked (toString n)
  | .number (.float x) => "floating point " ++ ticked (String.ofList (Number.float x).text)
  | .string s => "string " ++ Text.quote s
  | .array _ => "sequence"
  | .object _ => "map"

def Mismatch.message : Mismatch → String
  | .wrongType found expected =>
    "invalid type: " ++ found.describe ++ ", expected " ++ expected.message
  | .outOfRange found expected =>
    "invalid value: integer " ++ ticked (toString found) ++ ", expected " ++ expected.message
  | .missingField field => "missing field " ++ ticked field
  | .duplicateField field => "duplicate field " ++ ticked field
  | .unknownVariant found known =>
    "unknown variant " ++ ticked found ++ ", expected one of " ++
      ", ".intercalate (known.map ticked)
  | .tooShort length name fields =>
    "invalid length " ++ toString length ++ ", expected struct " ++ name ++ " with " ++
      toString fields ++ " elements"
  | .tooLong length =>
    "invalid length " ++ toString length ++ ", expected fewer elements in array"
  | .notSingleKey => "invalid value: map, expected map with a single key"

end XmlSupport.Json
