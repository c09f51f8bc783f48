/-!
# Characters around and between

Controls and spaces at the ends of a text are no part of the URI, and neither
are line breaks and tabs wherever they stand.
-/

namespace XmlSupport.Uri

def isControlOrSpace (c : Char) : Bool := c ≤ ' '

/-- The text without controls and spaces at its ends. -/
def trim (cs : List Char) : List Char :=
  ((cs.dropWhile isControlOrSpace).reverse.dropWhile isControlOrSpace).reverse

def isIgnored (c : Char) : Bool := c = '\t' || c = '\n' || c = '\r'

def visible (cs : List Char) : List Char := cs.filter (! isIgnored ·)

end XmlSupport.Uri
