/-!
# Blank characters

The indentation rules and the tag reader skip the same white space: the
twenty-five code points that carry the property `White_Space`. The editor's
pattern language has a class of its own for it, which is nearly the same.
-/

namespace XmlSupport.Text

def blanks : List Char :=
  ['\t', '\n', '\x0b', '\x0c', '\r', ' ', '\x85', '\xa0', '\u1680',
   '\u2000', '\u2001', '\u2002', '\u2003', '\u2004', '\u2005', '\u2006',
   '\u2007', '\u2008', '\u2009', '\u200a', '\u2028', '\u2029', '\u202f',
   '\u205f', '\u3000']

def isBlank (c : Char) : Bool := blanks.contains c

end XmlSupport.Text
