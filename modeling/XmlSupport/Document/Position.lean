import XmlSupport.Json.Decode

/-!
# Positions in a document

A place in a document by line and character, both counted from zero.
-/

namespace XmlSupport.Document

open Json

structure Position where
  line : UInt32
  character : UInt32
  deriving DecidableEq, Repr

namespace Position

def ofMembers (members : List (String × Json)) : Except Mismatch Position := do
  let character ← Decode.member "character" Decode.uint32 members
  let line ← Decode.member "line" Decode.uint32 members
  let line ← Decode.required "line" line
  let character ← Decode.required "character" character
  return ⟨line, character⟩

def ofItems (items : List Json) : Except Mismatch Position := do
  let (line, rest) ← Decode.item "Position" 2 0 Decode.uint32 items
  let (character, rest) ← Decode.item "Position" 2 1 Decode.uint32 rest
  Decode.finished items.length rest
  return ⟨line, character⟩

def decode : Decoder Position := Decode.record "Position" ofMembers ofItems

def encode (p : Position) : Json :=
  .object [("character", .ofNat p.character.toNat), ("line", .ofNat p.line.toNat)]

/-- How the log shows a position. -/
def describe (p : Position) : String :=
  "Position \x7b line: " ++ toString p.line.toNat ++ ", character: " ++
    toString p.character.toNat ++ " \x7d"

end Position
end XmlSupport.Document
