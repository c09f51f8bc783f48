import XmlSupport.Text.Utf8

/-!
# Paths

A path is a byte string whose components are separated by slashes. Joining does
no clean-up: an absolute operand replaces the base, and a separator is put in
only where there is none.
-/

namespace XmlSupport.Machine.Path

def slash : UInt8 := 47

/-- Separates the directories of a search path. -/
def colon : UInt8 := 58

def isAbsolute (path : Bytes) : Bool := path.head? == some slash

def join (base operand : Bytes) : Bytes :=
  if isAbsolute operand then operand
  else if base.isEmpty || base.getLast? == some slash then base ++ operand
  else base ++ slash :: operand

/-- Joins a name that is written down in this library. -/
def joinName (base : Bytes) (name : String) : Bytes := join base (Utf8.encode name)

/-- The components between the slashes; several slashes count as one. -/
def components (path : Bytes) : List Bytes :=
  (path.splitOn slash).filter fun c => !c.isEmpty

def dot : Bytes := [46]

def dotDot : Bytes := [46, 46]

/-- Whether a path can only name a directory. -/
def namesDirectory (path : Bytes) : Bool := path.getLast? == some slash

end XmlSupport.Machine.Path
