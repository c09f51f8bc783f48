/-!
# Tables of ranges

A property of characters is a table of closed ranges of code points, in
ascending order and apart, so that a search can halve the table.
-/

namespace XmlSupport.Text

/-- Halves the part of the table that may hold `n`: the entries from `lo` up to, not including,
`hi`. -/
def searchRange {α : Type} (bounds : α → Nat × Nat) (table : Array α) (n : Nat) :
    Nat → Nat → Nat → Option α
  | 0, _, _ => none
  | fuel + 1, lo, hi =>
    if lo < hi then
      let mid := (lo + hi) / 2
      match table[mid]? with
      | none => none
      | some entry =>
        if n < (bounds entry).1 then searchRange bounds table n fuel lo mid
        else if (bounds entry).2 < n then searchRange bounds table n fuel (mid + 1) hi
        else some entry
    else none

/-- The entry whose range holds `n`. -/
def findRange? {α : Type} (bounds : α → Nat × Nat) (table : Array α) (n : Nat) : Option α :=
  searchRange bounds table n (table.size + 1) 0 table.size

def inRanges (ranges : Array (Nat × Nat)) (n : Nat) : Bool := (findRange? id ranges n).isSome

/-- The value that a table of ranges with values gives `n`. -/
def rangeValue? {α : Type} (table : Array (Nat × Nat × α)) (n : Nat) : Option α :=
  (findRange? (fun entry => (entry.1, entry.2.1)) table n).map (·.2.2)

end XmlSupport.Text
